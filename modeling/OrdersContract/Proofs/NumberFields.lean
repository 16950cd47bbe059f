import OrdersContract.Proofs.Fields
import OrdersContract.Proofs.NumberRequirements

set_option autoImplicit false

namespace OrdersContract.Field

open Json Number

variable {node : Value} {name : String}

theorem number?_any_field_iff {test : Double → Bool} :
    (node.field name).number?.any test = true ↔
      ∃ n, node.get? name = some (.number n) ∧ test n.toDouble = true := by
  simp [number?_any_iff, Value.field_eq_present_iff]

theorem isPositiveNumber_field_iff :
    (node.field name).isPositiveNumber = true ↔
      ∃ n, node.get? name = some (.number n) ∧ 0 < n.value := by
  simp [isPositiveNumber_iff, Value.field_eq_present_iff]

theorem number?_le_field_iff {k : Nat} (small : k < 2 ^ Double.precision) :
    (node.field name).number?.any (· ≤ .ofNat k) = true ↔
      ∃ n, node.get? name = some (.number n) ∧ n.value ≤ k := by
  simp only [number?_any_field_iff, decide_eq_true_eq, Numeric.toDouble_le_iff _ small]

theorem isNonNegativeInteger_of_value {n : Numeric} {k : Nat}
    (found : node.get? name = some (.number n)) (equal : n.value = k) :
    (node.field name).isNonNegativeInteger = true := by
  have held : node.field name = present (.number n) :=
    Value.field_eq_present_iff.mpr ⟨found, by simp⟩
  have whole : n.IsWhole := ⟨k, by rw [equal, Int.cast_natCast]⟩
  have nonneg : 0 ≤ n.value := by
    rw [equal]
    exact Nat.cast_nonneg k
  exact isNonNegativeInteger_iff.mpr ⟨n, held, whole, nonneg⟩

end OrdersContract.Field
