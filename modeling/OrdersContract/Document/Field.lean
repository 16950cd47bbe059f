import OrdersContract.Json.Written

/-!
What an object holds under a name, seen by someone who asks for it: a member that is absent and one
that is null are both missing. Values such as `0`, `false` and the empty text are present.
-/

set_option autoImplicit false

namespace OrdersContract

open Json

inductive Field where
  | missing
  | present (value : Value)

namespace Field

def ofOption : Option Value → Field
  | none => missing
  | some .null => missing
  | some value => present value

def value? : Field → Option Value
  | missing => none
  | present value => some value

def isMissing (field : Field) : Bool := field.value?.isNone

def shown : Field → String
  | missing => "undefined"
  | present value => value.text

def kindName : Field → String
  | missing => "undefined"
  | present .null => "null"
  | present (.bool _) => "boolean"
  | present (.number _) => "number"
  | present (.string _) => "string"
  | present (.array _) => "array"
  | present (.object _) => "object"

@[simp] theorem ofOption_none : ofOption none = missing := rfl
@[simp] theorem ofOption_null : ofOption (some .null) = missing := rfl
@[simp] theorem value?_missing : missing.value? = none := rfl
@[simp] theorem value?_present (value : Value) : (present value).value? = some value := rfl

theorem ofOption_eq_present_iff {found : Option Value} {value : Value} :
    ofOption found = present value ↔ found = some value ∧ value ≠ .null := by
  cases found with
  | none => simp
  | some held => cases held <;> grind [ofOption]

end Field

namespace Json.Value

def field (name : String) (node : Value) : Field := .ofOption (node.get? name)

def elements? (name : String) (node : Value) : Option (List Value) :=
  (node.field name).value?.bind items?

def elements (name : String) (node : Value) : List Value := (node.elements? name).getD []

def length? (name : String) (node : Value) : Option Nat := (node.elements? name).map List.length

end Json.Value

end OrdersContract
