import OrdersContract.Proofs.Rounding

set_option autoImplicit false

namespace OrdersContract.Number

theorem roundDiv_le_succ_div (num den : Nat) : roundDiv num den ≤ num / den + 1 := by
  simp only [roundDiv]
  split <;> omega

theorem roundDiv_mono {a b : Nat} (den : Nat) (le : a ≤ b) : roundDiv a den ≤ roundDiv b den := by
  have quotients : a / den ≤ b / den := Nat.div_le_div_right le
  by_cases same : a / den = b / den
  next =>
    -- Between two integers the remainders decide.
    have remainders : a % den ≤ b % den := by
      have splitA := Nat.div_add_mod' a den
      have splitB := Nat.div_add_mod' b den
      rw [same] at splitA
      omega
    simp only [roundDiv, same]
    split <;> split <;> omega
  next =>
    calc roundDiv a den ≤ a / den + 1 := roundDiv_le_succ_div a den
      _ ≤ b / den := by omega
      _ ≤ roundDiv b den := div_le_roundDiv b den

namespace Double

theorem spacingExponent_mono {a b : Nat} (le : a ≤ b) : spacingExponent a ≤ spacingExponent b := by
  have digits : a.log2 ≤ b.log2 := by
    by_cases zero : a = 0
    next => simp [zero]
    next => exact (Nat.le_log2 (by omega)).mpr (Nat.le_trans (Nat.log2_self_le zero) le)
  simp only [spacingExponent]
  omega

theorem lt_pow_spacingExponent (m : Nat) : m < 2 ^ (precision + spacingExponent m) := by
  by_cases zero : m = 0
  next => simp [zero]
  next =>
    rw [← Nat.log2_lt zero]
    simp only [spacingExponent]
    omega

theorem nearest_le_pow (m : Nat) : nearest m 1 ≤ 2 ^ (precision + spacingExponent m) := by
  have quotient : m / 2 ^ spacingExponent m < 2 ^ precision := by
    rw [Nat.div_lt_iff_lt_mul (Nat.two_pow_pos _), ← Nat.pow_add]
    exact lt_pow_spacingExponent m
  have rounded : roundDiv m (2 ^ spacingExponent m) ≤ 2 ^ precision :=
    Nat.le_trans (roundDiv_le_succ_div ..) quotient
  rw [nearest_one, Nat.pow_add]
  exact Nat.mul_le_mul_right _ rounded

theorem pow_le_of_spacingExponent_pos {m : Nat} (wide : 0 < spacingExponent m) :
    2 ^ (precision - 1 + spacingExponent m) ≤ m := by
  have positive : m ≠ 0 := by
    rintro rfl
    simp [spacingExponent, precision] at wide
  have exponent : precision - 1 + spacingExponent m = m.log2 := by
    simp only [spacingExponent, precision] at wide ⊢
    omega
  rw [exponent]
  exact Nat.log2_self_le positive

theorem nearest_mono {a b : Nat} (le : a ≤ b) : nearest a 1 ≤ nearest b 1 := by
  have exponents := spacingExponent_mono le
  by_cases same : spacingExponent a = spacingExponent b
  next =>
    rw [nearest_one, nearest_one, same]
    exact Nat.mul_le_mul_right _ (roundDiv_mono _ le)
  next =>
    -- A power of two lies between them, and rounding crosses none.
    have larger : 2 ^ (precision - 1 + spacingExponent b) ≤ b :=
      pow_le_of_spacingExponent_pos (by omega)
    calc nearest a 1 ≤ 2 ^ (precision + spacingExponent a) := nearest_le_pow a
      _ ≤ 2 ^ (precision - 1 + spacingExponent b) :=
        Nat.pow_le_pow_right (by omega) (by simp only [precision]; omega)
      _ ≤ nearest b 1 := pow_le_nearest larger

def roundedUnits (units : Int) : Int :=
  if units < 0 then -(nearest units.natAbs 1 : Int) else nearest units.natAbs 1

theorem roundedUnits_mono {a b : Int} (le : a ≤ b) : roundedUnits a ≤ roundedUnits b := by
  by_cases negativeA : a < 0 <;> by_cases negativeB : b < 0 <;>
    simp only [roundedUnits, negativeA, negativeB, if_true, if_false]
  case pos =>
    have larger := nearest_mono (show b.natAbs ≤ a.natAbs by omega)
    omega
  case neg => omega
  case pos => omega
  case neg =>
    have larger := nearest_mono (show a.natAbs ≤ b.natAbs by omega)
    omega

theorem units_ofInt (n : Int) : (ofInt n).units = roundedUnits (n * one) := by
  have positive : (0 : Int) < one := by exact_mod_cast one_pos
  have magnitude : (n * one).natAbs = n.natAbs * one := by
    rw [Int.natAbs_mul, Int.natAbs_natCast]
  have sign : n * one < 0 ↔ n < 0 := by
    rw [← mul_lt_mul_iff_of_pos_right (b := n) (c := 0) positive, Int.zero_mul]
  by_cases negative : n < 0
  next => rw [units_ofInt_of_neg negative, roundedUnits, if_pos (sign.mpr negative), magnitude]
  next =>
    rw [units_ofInt_of_nonneg (Int.not_lt.mp negative), roundedUnits,
      if_neg (mt sign.mp negative), magnitude]

/-- A number that a word of 64 bits holds has no digits to round. -/
def IsRounded (d : Double) : Prop := nearest d.magnitude 1 = d.magnitude

instance (d : Double) : Decidable d.IsRounded := inferInstanceAs (Decidable (_ = _))

theorem IsRounded.units_eq {d : Double} (rounded : d.IsRounded) :
    d.units = roundedUnits d.units := by
  have kept : nearest d.units.natAbs 1 = d.units.natAbs := by
    rw [← magnitude_eq_natAbs]
    exact rounded
  simp only [roundedUnits, kept]
  split <;> omega

end Double

end OrdersContract.Number

namespace OrdersContract.Json.Numeric

open Number

def IsRounded : Numeric → Prop
  | integer _ => True
  | double d => d.IsRounded

instance (n : Numeric) : Decidable n.IsRounded :=
  match n with
  | integer _ => isTrue trivial
  | double d => inferInstanceAs (Decidable d.IsRounded)

theorem toDouble_le_toDouble {a b : Numeric} (roundedA : a.IsRounded) (roundedB : b.IsRounded)
    (le : a.value ≤ b.value) : a.toDouble ≤ b.toDouble := by
  have units {n : Numeric} (rounded : n.IsRounded) :
      ∃ exact : Int, n.value = exact / Double.one ∧
        n.toDouble.units = Double.roundedUnits exact := by
    cases n with
    | integer n =>
      refine ⟨n.val * Double.one, ?_, Double.units_ofInt n.val⟩
      have nonzero : (Double.one : Rat) ≠ 0 := ne_of_gt Double.one_cast_pos
      rw [value, Int.cast_mul, Int.cast_natCast, mul_div_cancel_right₀ _ nonzero]
    | double d => exact ⟨d.units, rfl, rounded.units_eq⟩
  obtain ⟨exactA, valueA, unitsA⟩ := units roundedA
  obtain ⟨exactB, valueB, unitsB⟩ := units roundedB
  have order : exactA ≤ exactB := by
    rw [valueA, valueB, div_le_div_iff_of_pos_right Double.one_cast_pos] at le
    exact_mod_cast le
  change a.toDouble.units ≤ b.toDouble.units
  rw [unitsA, unitsB]
  exact Double.roundedUnits_mono order

end OrdersContract.Json.Numeric
