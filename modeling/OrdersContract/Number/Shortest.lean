import OrdersContract.Number.Double
import OrdersContract.Text.Digits

/-!
The shortest decimal text that reads back as the same number: of the decimals with the fewest
digits inside the range that rounds to a number, the one nearest to it.
-/

set_option autoImplicit false

namespace OrdersContract.Number

open Text

structure Decimal where
  digits : Nat
  exponent : Int
deriving DecidableEq, Repr

namespace Decimal

def strip (digits : Nat) (exponent : Int) : Decimal :=
  if digits = 0 ∨ digits % 10 ≠ 0 then ⟨digits, exponent⟩
  else strip (digits / 10) (exponent + 1)
  termination_by digits
  decreasing_by omega

end Decimal

namespace Double

/-- Twice a magnitude's distance to the points halfway to its lower and upper neighbours, doubled
again so that both are whole. -/
def halfGaps (m : Nat) : Nat × Nat :=
  let spacing := Nat.pow 2 (spacingExponent m)
  -- Below a power of two the numbers are twice as dense.
  (if m = Nat.pow 2 m.log2 ∧ 1 < spacing then spacing else 2 * spacing, 2 * spacing)

/-- Whether the decimal `num / den` units rounds to the magnitude `m`; the ends of the range do
when `m` is an even multiple of its spacing. -/
def roundsTo (m num den : Nat) : Bool :=
  let (below, above) := halfGaps m
  let low := (4 * m - below) * den
  let high := (4 * m + above) * den
  if m / Nat.pow 2 (spacingExponent m) % 2 = 0 then low ≤ 4 * num ∧ 4 * num ≤ high
  else low < 4 * num ∧ 4 * num < high

/-- The exponent of the first digit of a positive magnitude: every magnitude is above
`10 ^ (-324)`. -/
def leadingExponent (m : Nat) : Int :=
  ((decimal (m * Nat.pow 10 324 / one)).length : Int) - 325

def onGrid? (m : Nat) (exponent : Int) : Option Nat :=
  let up := Nat.pow 10 (-exponent).toNat
  let unit := one * Nat.pow 10 exponent.toNat
  let below := m * up / unit
  let rest := m * up % unit
  let nearer := roundDiv (m * up) unit
  let farther := if nearer = below then below + 1 else below
  if roundsTo m (nearer * unit) up then some nearer
  else if rest ≠ 0 ∧ roundsTo m (farther * unit) up then some farther
  else none

def shortestFrom (m : Nat) (leading : Int) (count more : Nat) : Decimal :=
  let exponent := leading - (count - 1 : Nat)
  match more, onGrid? m exponent with
  | _, some digits => .strip digits exponent
  | 0, none => .strip (m * Nat.pow 10 1074 / one) (-1074)
  | more + 1, none => shortestFrom m leading (count + 1) more

-- Seventeen digits tell all numbers apart.
def shortest (m : Nat) : Decimal :=
  if m = 0 then ⟨0, 0⟩ else shortestFrom m (leadingExponent m) 1 16

/-- Where the text of a number turns from positional to scientific: by the exponent of its first
digit. -/
structure Layout where
  smallest : Int
  largest : Int

-- Numbers from `0.00001` up to below `10 ^ 16` are written in full.
def layout : Layout := ⟨-5, 15⟩

def positional (digits : List Char) (exponent : Int) : List Char :=
  if 0 ≤ exponent then digits ++ List.replicate exponent.toNat '0' ++ ['.', '0']
  else
    let places := exponent.natAbs
    if places < digits.length then
      digits.take (digits.length - places) ++ '.' :: digits.drop (digits.length - places)
    else '0' :: '.' :: (List.replicate (places - digits.length) '0' ++ digits)

def scientific (digits : List Char) (leading : Int) : List Char :=
  let head := digits.take 1
  let tail := digits.drop 1
  head ++ (if tail.isEmpty then [] else '.' :: tail) ++
    'e' :: (if leading < 0 then '-' else '+') :: decimal leading.natAbs

def chars (d : Double) : List Char :=
  let short := shortest d.magnitude
  let digits := decimal short.digits
  let leading := short.exponent + digits.length - 1
  let body :=
    if layout.smallest ≤ leading ∧ leading ≤ layout.largest then positional digits short.exponent
    else scientific digits leading
  if d.negative then '-' :: body else body

def text (d : Double) : String := .ofList d.chars

end Double

end OrdersContract.Number
