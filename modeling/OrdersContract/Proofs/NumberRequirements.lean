import OrdersContract.Document.Requirement
import OrdersContract.Proofs.RoundingOrder

set_option autoImplicit false

namespace OrdersContract

open Json Number

namespace Number.Double

def width : Nat := 2098

theorem overflow_eq : overflow = 2 ^ width := by
  decide +kernel

def IsFinite (d : Double) : Prop := d.magnitude < overflow

instance (d : Double) : Decidable d.IsFinite := inferInstanceAs (Decidable (_ < _))

theorem two_pow_dvd_nearest {k m : Nat} (coarse : k ≤ spacingExponent m) :
    2 ^ k ∣ nearest m 1 := by
  rw [nearest_one]
  exact Nat.dvd_mul_left_of_dvd (Nat.pow_dvd_pow 2 coarse) _

theorem one_dvd_nearest (n : Nat) : one ∣ nearest (n * one) 1 := by
  by_cases small : n < 2 ^ precision
  next =>
    rw [nearest_mul_one small]
    exact Nat.dvd_mul_left one n
  next =>
    -- Around a larger integer the numbers are at least one apart.
    have large : 2 ^ (precision + places) ≤ n * one := by
      rw [Nat.pow_add, one_eq]
      exact Nat.mul_le_mul_right _ (Nat.not_lt.mp small)
    have positive : n * one ≠ 0 := by
      have := Nat.two_pow_pos (precision + places)
      omega
    have coarse : places ≤ spacingExponent (n * one) := by
      have digits : precision + places ≤ (n * one).log2 := (Nat.le_log2 positive).mpr large
      simp only [spacingExponent]
      omega
    have whole := two_pow_dvd_nearest coarse
    rwa [← one_eq] at whole

theorem magnitude_ofInt (n : Int) : (ofInt n).magnitude = nearest (n.natAbs * one) 1 := by
  by_cases negative : n < 0 <;> simp [ofInt, ofNat, negative]

theorem isIntegral_ofInt (n : Int) : (ofInt n).isIntegral = true := by
  rw [isIntegral, magnitude_ofInt, beq_iff_eq]
  exact Nat.mod_eq_zero_of_dvd (one_dvd_nearest n.natAbs)

/-- Rounding may reach the next power of two, but it does not cross it. -/
theorem nearest_mul_one_le {n k : Nat} (le : n ≤ 2 ^ k) :
    nearest (n * one) 1 ≤ 2 ^ (k + places) := by
  rw [← nearest_two_pow]
  apply nearest_mono
  rw [Nat.pow_add, ← one_eq]
  exact Nat.mul_le_mul_right one le

theorem two_pow_lt_overflow {k : Nat} (small : k < width) : 2 ^ k < overflow := by
  rw [overflow_eq]
  exact Nat.pow_lt_pow_right (Nat.le_refl 2) small

theorem isFinite_ofInt {n : Int} (fits : n.natAbs ≤ 2 ^ 64) : (ofInt n).IsFinite := by
  rw [IsFinite, magnitude_ofInt]
  calc nearest (n.natAbs * one) 1 ≤ 2 ^ (64 + places) := nearest_mul_one_le fits
    _ < overflow := two_pow_lt_overflow (by simp only [places, width]; omega)

theorem isIntegral_iff (d : Double) : d.isIntegral = true ↔ ∃ k : Int, d.value = k := by
  have nonzero : (one : Rat) ≠ 0 := ne_of_gt one_cast_pos
  rw [isIntegral, beq_iff_eq, ← Nat.dvd_iff_mod_eq_zero, magnitude_eq_natAbs, ← Int.natCast_dvd]
  constructor
  · rintro ⟨k, whole⟩
    refine ⟨k, ?_⟩
    rw [value, whole, Int.cast_mul, Int.cast_natCast, mul_div_cancel_left₀ _ nonzero]
  · rintro ⟨k, whole⟩
    refine ⟨k, ?_⟩
    rw [value, div_eq_iff nonzero] at whole
    rw [Int.mul_comm]
    exact_mod_cast whole

end Number.Double

namespace Json.Numeric

def IsWhole (n : Numeric) : Prop := ∃ k : Int, n.value = k

theorem isIntegral_toDouble_iff (n : Numeric) : n.toDouble.isIntegral = true ↔ n.IsWhole := by
  cases n with
  | integer n => exact iff_of_true (Double.isIntegral_ofInt n.val) ⟨n.val, rfl⟩
  | double d => exact d.isIntegral_iff

end Json.Numeric

namespace Field

variable {field : Field} {test : Double → Bool}

theorem number?_eq_some_iff {d : Double} :
    field.number? = some d ↔ ∃ n, field = present (.number n) ∧ n.toDouble = d := by
  cases field with
  | missing => simp [number?]
  | present value => cases value <;> simp [number?]

theorem number?_any_iff :
    field.number?.any test = true ↔ ∃ n, field = present (.number n) ∧ test n.toDouble = true := by
  simp only [Option.any_eq_true, number?_eq_some_iff]
  grind

theorem integer?_any_iff :
    field.integer?.any test = true ↔
      ∃ n, field = present (.number n) ∧ n.IsWhole ∧ test n.toDouble = true := by
  simp only [integer?, Option.any_eq_true, Option.filter_eq_some_iff, number?_eq_some_iff,
    ← Numeric.isIntegral_toDouble_iff]
  grind

theorem isNumber_iff : field.isNumber = true ↔ ∃ n, field = present (.number n) := by
  simp only [isNumber, Option.isSome_iff_exists, number?_eq_some_iff]
  grind

theorem isPositiveNumber_iff :
    field.isPositiveNumber = true ↔ ∃ n, field = present (.number n) ∧ 0 < n.value := by
  simp only [isPositiveNumber, number?_any_iff, decide_eq_true_eq, Numeric.zero_lt_toDouble_iff]

theorem isInteger_iff :
    field.isInteger = true ↔ ∃ n, field = present (.number n) ∧ n.IsWhole := by
  have asAny : field.isInteger = field.integer?.any fun _ => true := by
    cases found : field.integer? <;> simp [isInteger, found]
  simp only [asAny, integer?_any_iff, and_true]

theorem isNonNegativeInteger_iff :
    field.isNonNegativeInteger = true ↔
      ∃ n, field = present (.number n) ∧ n.IsWhole ∧ 0 ≤ n.value := by
  simp only [isNonNegativeInteger, integer?_any_iff, decide_eq_true_eq,
    Numeric.zero_le_toDouble_iff]

theorem isPositiveInteger_iff :
    field.isPositiveInteger = true ↔
      ∃ n, field = present (.number n) ∧ n.IsWhole ∧ 0 < n.value := by
  simp only [isPositiveInteger, integer?_any_iff, decide_eq_true_eq,
    Numeric.zero_lt_toDouble_iff]

/-- The requirements see an integer as it was written, although they look at its rounding. -/
structure SeesInteger (n : Integer) : Prop where
  rounded : (present (.number (.integer n))).number? = some (.ofInt n.val)
  finite : (Double.ofInt n.val).IsFinite
  number : (present (.number (.integer n))).isNumber = true
  integer : (present (.number (.integer n))).isInteger = true
  nonNegative : (present (.number (.integer n))).isNonNegativeInteger = true ↔ 0 ≤ n.val
  positive : (present (.number (.integer n))).isPositiveInteger = true ↔ 1 ≤ n.val
  positiveNumber : (present (.number (.integer n))).isPositiveNumber = true ↔ 1 ≤ n.val

/-- From the strictest requirement to the laxest, which asks for a number. -/
structure Graded (field : Field) : Prop where
  positive : field.isPositiveInteger = true →
    field.isNonNegativeInteger = true ∧ field.isPositiveNumber = true
  nonNegative : field.isNonNegativeInteger = true → field.isInteger = true
  integer : field.isInteger = true → field.isNumber = true
  others : (∀ n, field ≠ present (.number n)) →
    field.isNumber = false ∧ field.isPositiveNumber = false ∧ field.isInteger = false ∧
      field.isNonNegativeInteger = false ∧ field.isPositiveInteger = false

theorem seesInteger (n : Integer) : SeesInteger n := by
  have whole : (Numeric.integer n).IsWhole := ⟨n.val, rfl⟩
  have value : (Numeric.integer n).value = n.val := rfl
  have nonneg : (0 : Rat) ≤ n.val ↔ 0 ≤ n.val := by exact_mod_cast Iff.rfl
  have positive : (0 : Rat) < n.val ↔ 1 ≤ n.val := by exact_mod_cast Iff.rfl
  have fits : n.val.natAbs ≤ 2 ^ 64 := by
    have lower := n.lower
    have upper := n.upper
    omega
  constructor
  case rounded => rfl
  case finite => exact Double.isFinite_ofInt fits
  case number => exact isNumber_iff.mpr ⟨_, rfl⟩
  case integer => exact isInteger_iff.mpr ⟨_, rfl, whole⟩
  case nonNegative => simp [isNonNegativeInteger_iff, whole, value, nonneg]
  case positive => simp [isPositiveInteger_iff, whole, value, positive]
  case positiveNumber => simp [isPositiveNumber_iff, value, positive]

theorem graded (field : Field) : field.Graded := by
  constructor
  case positive =>
    rw [isPositiveInteger_iff, isNonNegativeInteger_iff, isPositiveNumber_iff]
    rintro ⟨n, same, whole, positive⟩
    exact ⟨⟨n, same, whole, le_of_lt positive⟩, n, same, positive⟩
  case nonNegative =>
    rw [isNonNegativeInteger_iff, isInteger_iff]
    rintro ⟨n, same, whole, _⟩
    exact ⟨n, same, whole⟩
  case integer =>
    rw [isInteger_iff, isNumber_iff]
    rintro ⟨n, same, _⟩
    exact ⟨n, same⟩
  case others =>
    intro other
    have none : field.number? = none := by
      rw [Option.eq_none_iff_forall_ne_some]
      intro d held
      obtain ⟨n, same, _⟩ := number?_eq_some_iff.mp held
      exact other n same
    simp [isNumber, isPositiveNumber, isInteger, isNonNegativeInteger, isPositiveInteger, integer?,
      none]

/--
For every integer of 64 bits the requirements hold that are true of it as it was written, although
it is rounded to a finite number first. For every field, whatever it holds, a stricter requirement
implies the laxer ones, and a field that holds no number meets none of them.
-/
theorem requirements_see_numbers :
    (∀ n : Integer, SeesInteger n) ∧ ∀ field : Field, field.Graded :=
  ⟨seesInteger, graded⟩

-- The greatest integer is rounded up to a number that is none of 64 bits any more.
theorem greatest_integer_seen :
    let greatest : Integer := ⟨0xFFFFFFFFFFFFFFFF, by decide, by decide⟩
    let field := present (.number (.integer greatest))
    (Double.ofInt greatest.val).agrees (.ofNat 0x10000000000000000) = true ∧
      Integer.ofInt? 0x10000000000000000 = none ∧
      (Double.ofInt greatest.val).IsFinite ∧ field.isPositiveInteger = true ∧
      field.isNonNegativeInteger = true ∧ field.isInteger = true ∧ field.isNumber = true ∧
      (present (.string "1")).isNumber = false := by
  intro greatest field
  obtain ⟨sees, graded⟩ := requirements_see_numbers
  have integer := sees greatest
  have positive : field.isPositiveInteger = true := integer.positive.mpr (by decide)
  have nonNegative := ((graded field).positive positive).1
  have whole := (graded field).nonNegative nonNegative
  have text := (graded (present (.string "1"))).others (by simp)
  exact ⟨by decide +kernel, by decide, integer.finite, positive, nonNegative, whole,
    (graded field).integer whole, text.1⟩

end Field

end OrdersContract
