import OrdersContract.Number.Double

/-!
JSON values. A number without fraction and exponent is kept exactly while it fits 64 bits; every
other number is a floating-point number. The members of an object that is read are in increasing
order of their keys, each key once.
-/

set_option autoImplicit false

namespace OrdersContract.Json

structure Integer where
  val : Int
  lower : -0x8000000000000000 ≤ val
  upper : val < 0x10000000000000000
deriving DecidableEq

-- The sign is looked at first, so that a bound is compared with a natural number.
def Integer.ofInt? : Int → Option Integer
  | .ofNat n => if small : n < 0x10000000000000000 then some ⟨n, by omega, by omega⟩ else none
  | .negSucc n =>
    if small : n < 0x8000000000000000 then some ⟨.negSucc n, by omega, by omega⟩ else none

theorem Integer.ofInt?_of_fits {n : Int}
    (fits : -0x8000000000000000 ≤ n ∧ n < 0x10000000000000000) :
    ofInt? n = some ⟨n, fits.1, fits.2⟩ := by
  cases n with
  | ofNat n => exact dif_pos (Int.ofNat_lt.mp fits.2)
  | negSucc n => exact dif_pos (by omega)

inductive Numeric where
  | integer (n : Integer)
  | double (d : Number.Double)
deriving DecidableEq

def Numeric.toDouble : Numeric → Number.Double
  | .integer n => .ofInt n.val
  | .double d => d

inductive Value where
  | null
  | bool (b : Bool)
  | number (n : Numeric)
  | string (s : String)
  | array (items : List Value)
  | object (members : List (String × Value))

instance : Inhabited Value := ⟨.null⟩

def setMember (key : String) (value : Value) :
    List (String × Value) → List (String × Value)
  | [] => [(key, value)]
  | (other, kept) :: rest =>
    if key < other then (key, value) :: (other, kept) :: rest
    else if key = other then (key, value) :: rest
    else (other, kept) :: setMember key value rest

namespace Value

def items? : Value → Option (List Value)
  | .array items => some items
  | _ => none

def get? (name : String) : Value → Option Value
  | .object members => members.lookup name
  | _ => none

def string? : Value → Option String
  | .string s => some s
  | _ => none

@[induction_eliminator]
theorem induction {motive : Value → Prop} (null : motive .null) (bool : ∀ b, motive (.bool b))
    (number : ∀ n, motive (.number n)) (string : ∀ s, motive (.string s))
    (array : ∀ items, (∀ item ∈ items, motive item) → motive (.array items))
    (object : ∀ members, (∀ member ∈ members, motive member.2) → motive (.object members)) :
    ∀ value, motive value
  | .null => null
  | .bool b => bool b
  | .number n => number n
  | .string s => string s
  | .array items =>
    array items fun item listed =>
      have : sizeOf item < sizeOf items := List.sizeOf_lt_of_mem listed
      induction null bool number string array object item
  | .object members =>
    object members fun (key, value) listed =>
      have : sizeOf (key, value) < sizeOf members := List.sizeOf_lt_of_mem listed
      have : sizeOf value < sizeOf (key, value) := by simp +arith
      induction null bool number string array object value

end Value

end OrdersContract.Json
