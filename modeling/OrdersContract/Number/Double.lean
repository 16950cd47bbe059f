import OrdersContract.Number.Rounding

/-!
Finite binary floating-point numbers of 64 bits. Every such number is a whole multiple of the
smallest one, so a number is kept as a sign and that multiple: order, sign and integrality are then
facts about integers. An operation rounds its exact result to the nearest number of 53 binary
digits.
-/

set_option autoImplicit false

namespace OrdersContract.Number

/-- The number `± magnitude / 2 ^ 1074`. -/
structure Double where
  negative : Bool
  magnitude : Nat
deriving DecidableEq, Repr

namespace Double

def precision : Nat := 53

/-- How often the smallest positive number fits into one. -/
def one : Nat := Nat.pow 2 1074

def overflow : Nat := Nat.pow 2 2098

/-- The distance between neighbouring numbers around a magnitude, when this is above that
around zero, is a power of two with this exponent. -/
def spacingExponent (magnitude : Nat) : Nat := magnitude.log2 + 1 - precision

def nearest (num den : Nat) : Nat :=
  let spacing := Nat.pow 2 (spacingExponent (num / den))
  roundDiv num (den * spacing) * spacing

def ofNat (n : Nat) : Double := ⟨false, nearest (n * one) 1⟩

def ofInt (n : Int) : Double :=
  if n < 0 then ⟨true, nearest (n.natAbs * one) 1⟩ else ofNat n.natAbs

/-- The exact value, in units of the smallest positive number. -/
def units (d : Double) : Int := if d.negative then -(d.magnitude : Int) else d.magnitude

instance : LE Double := ⟨fun a b => a.units ≤ b.units⟩
instance : LT Double := ⟨fun a b => a.units < b.units⟩
instance (a b : Double) : Decidable (a ≤ b) := inferInstanceAs (Decidable (a.units ≤ b.units))
instance (a b : Double) : Decidable (a < b) := inferInstanceAs (Decidable (a.units < b.units))

theorem le_trans {a b c : Double} (first : a ≤ b) (second : b ≤ c) : a ≤ c :=
  Int.le_trans first second

-- Equal as numbers: the two zeros agree.
def agrees (a b : Double) : Bool := a.units == b.units

def zero : Double := ⟨false, 0⟩

def isIntegral (d : Double) : Bool := d.magnitude % one == 0

def powerOfTen (exponent : Nat) : Nat := nearest (Nat.pow 10 exponent * one) 1

def timesPowerOfTen? (m exponent : Nat) : Option Nat :=
  let product := nearest (m * powerOfTen exponent) one
  if product < overflow then some product else none

def overPowerOfTen (m exponent : Nat) : Nat := nearest (m * one) (powerOfTen exponent)

def largestPower : Nat := 308

def downByPowersOfTen (m exponent : Nat) : Nat :=
  if m = 0 then 0
  else if exponent ≤ largestPower then overPowerOfTen m exponent
  else downByPowersOfTen (overPowerOfTen m largestPower) (exponent - largestPower)
  termination_by exponent
  decreasing_by simp_all [largestPower]; omega

/-- The magnitude of `significand * 10 ^ exponent`, found in one rounded multiplication or
division by a power of ten where one is large enough; none when it is not finite. -/
def scaled? (significand : Nat) (exponent : Int) : Option Nat :=
  -- Rounded twice, so the result need not be the number nearest to the decimal.
  let m := (ofNat significand).magnitude
  if exponent < 0 then some (downByPowersOfTen m exponent.natAbs)
  else if exponent.natAbs ≤ largestPower then timesPowerOfTen? m exponent.natAbs
  else if m = 0 then some 0
  else none

end Double

end OrdersContract.Number
