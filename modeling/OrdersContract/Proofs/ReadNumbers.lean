import OrdersContract.Proofs.Fields
import OrdersContract.Proofs.ReadValues
import OrdersContract.Proofs.RoundingOrder

set_option autoImplicit false

namespace OrdersContract

namespace Number.Double

theorem roundDiv_le_pow (num den : Nat) :
    roundDiv num (den * 2 ^ spacingExponent (num / den)) ≤ 2 ^ precision := by
  have quotient : num / (den * 2 ^ spacingExponent (num / den)) < 2 ^ precision := by
    rw [← Nat.div_div_eq_div_mul, Nat.div_lt_iff_lt_mul (Nat.two_pow_pos _), ← Nat.pow_add]
    exact lt_pow_spacingExponent (num / den)
  exact Nat.le_trans (roundDiv_le_succ_div ..) quotient

theorem nearest_of_digits {digits : Nat} (few : digits ≤ 2 ^ precision) (place : Nat) :
    nearest (digits * 2 ^ place) 1 = digits * 2 ^ place := by
  by_cases full : digits = 2 ^ precision
  next =>
    rw [full, ← Nat.pow_add]
    exact nearest_two_pow (precision + place)
  next =>
    apply nearest_of_dvd
    by_cases zero : digits = 0
    next => simp [zero]
    next =>
      have below : digits * 2 ^ place < 2 ^ (precision + place) := by
        rw [Nat.pow_add]
        exact Nat.mul_lt_mul_of_pos_right (by omega) (Nat.two_pow_pos place)
      have nonzero : digits * 2 ^ place ≠ 0 := Nat.mul_ne_zero zero (Nat.two_pow_pos place).ne'
      have exponent : spacingExponent (digits * 2 ^ place) ≤ place := by
        have short := (Nat.log2_lt nonzero).mpr below
        simp only [spacingExponent]
        omega
      exact Nat.dvd_trans (Nat.pow_dvd_pow 2 exponent) (Nat.dvd_mul_left _ _)

theorem nearest_nearest (num den : Nat) : nearest (nearest num den) 1 = nearest num den :=
  nearest_of_digits (roundDiv_le_pow num den) _

theorem nearest_zero : nearest 0 1 = 0 := nearest_of_dvd (Nat.dvd_zero _)

theorem nearest_downByPowersOfTen (m exponent : Nat) :
    nearest (downByPowersOfTen m exponent) 1 = downByPowersOfTen m exponent := by
  fun_induction downByPowersOfTen m exponent with
  | case1 => exact nearest_zero
  | case2 => exact nearest_nearest ..
  | case3 _ _ _ _ ih => exact ih

theorem nearest_of_scaled? {significand magnitude : Nat} {exponent : Int}
    (found : scaled? significand exponent = some magnitude) : nearest magnitude 1 = magnitude := by
  simp only [scaled?, timesPowerOfTen?] at found
  split at found
  next => exact Option.some.inj found ▸ nearest_downByPowersOfTen ..
  next =>
    split at found
    next =>
      split at found
      next => exact Option.some.inj found ▸ nearest_nearest ..
      next => cases found
    next =>
      split at found
      next => exact Option.some.inj found ▸ nearest_zero
      next => cases found

end Number.Double

namespace Json

open Number

section Numbers

variable {negative : Bool} {significand : Nat} {exponent : Int} {input rest : Input} {n : Numeric}

theorem isRounded_of_finishDouble
    (read : finishDouble negative significand exponent input = .ok (n, rest)) : n.IsRounded := by
  unfold finishDouble at read
  split at read
  next magnitude found =>
    obtain ⟨rfl, _⟩ := Prod.mk.inj (Except.ok.inj read)
    exact Double.nearest_of_scaled? found
  next => simp [faultAt] at read

theorem isRounded_of_readExponent
    (read : readExponent negative significand exponent input = .ok (n, rest)) : n.IsRounded := by
  unfold readExponent at read
  simp only at read
  split at read
  next => simp [faultAt] at read
  next => simp [faultIn] at read
  next =>
    split at read
    next => exact isRounded_of_finishDouble read
    next =>
      have zero : n = .double ⟨negative, 0⟩ := by grind
      rw [zero]
      exact Double.nearest_zero

theorem isRounded_of_readScale
    (read : readScale negative significand exponent input = .ok (n, rest)) : n.IsRounded := by
  unfold readScale at read
  split at read
  next => exact isRounded_of_readExponent read
  next => exact isRounded_of_readExponent read
  next => exact isRounded_of_finishDouble read

theorem isRounded_of_readFraction
    (read : readFraction negative significand exponent input = .ok (n, rest)) : n.IsRounded := by
  unfold readFraction at read
  split at read
  next => simp [faultAt] at read
  next => simp [faultIn] at read
  next => exact isRounded_of_readScale read

theorem isRounded_of_finishInteger
    (read : finishInteger negative significand input = .ok (n, rest)) : n.IsRounded := by
  unfold finishInteger at read
  simp only at read
  split at read
  next =>
    split at read
    next =>
      obtain ⟨rfl, _⟩ := Prod.mk.inj (Except.ok.inj read)
      exact Double.nearest_zero
    next =>
      obtain ⟨rfl, _⟩ := Prod.mk.inj (Except.ok.inj read)
      exact trivial
  next =>
    obtain ⟨rfl, _⟩ := Prod.mk.inj (Except.ok.inj read)
    exact Double.nearest_nearest ..

theorem isRounded_of_readNumber (read : readNumber negative input = .ok (n, rest)) :
    n.IsRounded := by
  unfold readNumber at read
  split at read
  next => simp [faultAt] at read
  next => simp [faultIn] at read
  next => simp at read
  next =>
    simp only at read
    split at read
    next => exact isRounded_of_readFraction read
    next => exact isRounded_of_readExponent read
    next => exact isRounded_of_readExponent read
    next => exact isRounded_of_finishInteger read
    next => exact isRounded_of_finishDouble read

end Numbers

inductive Value.Rounded : Value → Prop
  | null : Rounded .null
  | bool (b : Bool) : Rounded (.bool b)
  | string (s : String) : Rounded (.string s)
  | number {n : Numeric} (rounded : n.IsRounded) : Rounded (.number n)
  | array {items : List Value} (each : ∀ item ∈ items, Rounded item) : Rounded (.array items)
  | object {members : List (String × Value)} (each : ∀ member ∈ members, Rounded member.2) :
    Rounded (.object members)

theorem Value.Rounded.of_get? {whole value : Value} {name : String} (rounded : whole.Rounded)
    (found : whole.get? name = some value) : value.Rounded := by
  obtain ⟨members, rfl, held⟩ := Value.get?_eq_some_iff.mp found
  obtain ⟨before, behind, split, _⟩ := List.lookup_eq_some_iff.mp held
  cases rounded with
  | object each => exact each (name, value) (by simp [split])

/-- A document that is read holds no number that rounding would change. -/
theorem rounded_of_parse {bytes : List UInt8} {document : Value}
    (read : parse bytes = .ok document) : document.Rounded := by
  apply holds_of_parse _ read
  constructor
  case null => exact .null
  case bool => exact .bool
  case string => exact .string
  case number => exact fun found => .number (isRounded_of_readNumber found)
  case array => exact .array
  case object => exact fun _ => .object

-- For the fields of the elements of a list in a document.
theorem isRounded_of_parse {bytes : List UInt8} {document order : Value} {orders : List Value}
    {list field : String} {n : Numeric} (read : parse bytes = .ok document)
    (found : document.get? list = some (.array orders)) (listed : order ∈ orders)
    (held : order.get? field = some (.number n)) : n.IsRounded := by
  cases (rounded_of_parse read).of_get? found with
  | array each =>
    cases (each order listed).of_get? held with
    | number rounded => exact rounded

end Json

end OrdersContract
