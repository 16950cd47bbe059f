set_option autoImplicit false

namespace OrdersContract.Number

def roundDiv (num den : Nat) : Nat :=
  let quotient := num / den
  let excess := 2 * (num % den)
  if excess < den ∨ excess = den ∧ quotient % 2 = 0 then quotient else quotient + 1

theorem roundDiv_near (num den : Nat) (positive : 0 < den) :
    2 * (roundDiv num den * den) ≤ 2 * num + den ∧
      2 * num ≤ 2 * (roundDiv num den * den) + den := by
  have split := Nat.div_add_mod' num den
  have small := Nat.mod_lt num positive
  simp only [roundDiv]
  split
  next => omega
  next =>
    have next : (num / den + 1) * den = num / den * den + den := Nat.succ_mul _ _
    omega

theorem roundDiv_of_dvd (num den : Nat) (positive : 0 < den) (exact : den ∣ num) :
    roundDiv num den = num / den := by
  simp [roundDiv, Nat.mod_eq_zero_of_dvd exact, positive]

end OrdersContract.Number
