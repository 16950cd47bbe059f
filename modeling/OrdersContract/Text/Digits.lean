set_option autoImplicit false

namespace OrdersContract.Text

def digitValue? (c : Char) : Option Nat :=
  if '0' ≤ c ∧ c ≤ '9' then some (c.toNat - '0'.toNat) else none

def isDigit (c : Char) : Bool := (digitValue? c).isSome

def hexDigitValue? (c : Char) : Option Nat :=
  if '0' ≤ c ∧ c ≤ '9' then some (c.toNat - '0'.toNat)
  else if 'a' ≤ c ∧ c ≤ 'f' then some (c.toNat - 'a'.toNat + 10)
  else if 'A' ≤ c ∧ c ≤ 'F' then some (c.toNat - 'A'.toNat + 10)
  else none

def digitChar (value : Nat) : Char :=
  if value < 10 then .ofNat ('0'.toNat + value) else .ofNat ('a'.toNat + (value - 10))

def digitsBefore (base : Nat) (value : Nat) (rest : List Char) : List Char :=
  if base < 2 then rest
  else if value < base then digitChar value :: rest
  else digitsBefore base (value / base) (digitChar (value % base) :: rest)
  termination_by value
  decreasing_by exact Nat.div_lt_self (by omega) (by omega)

def decimal (value : Nat) : List Char := digitsBefore 10 value []

def decimalText (value : Nat) : String := .ofList (decimal value)

def hexText (value : Nat) : String := .ofList (digitsBefore 16 value [])

def numeral (base : Nat) (digits : List Nat) : Nat :=
  digits.foldl (fun value digit => value * base + digit) 0

def readDecimal? (chars : List Char) : Option Nat :=
  if chars.isEmpty then none else (chars.mapM digitValue?).map (numeral 10)

example : decimalText 51200 = "51200" := by decide +kernel
example : hexText 0x200b = "200b" := by decide +kernel
example : readDecimal? ['0', '4', '2'] = some 42 := by decide

end OrdersContract.Text
