import OrdersContract.Number.Rounding
import OrdersContract.Text.Digits

set_option autoImplicit false

namespace OrdersContract.Text

def paddedDecimal (width value : Nat) : List Char :=
  let digits := decimal value
  List.replicate (width - digits.length) '0' ++ digits

def twoPlaces (num den : Nat) : String :=
  let hundredths := Number.roundDiv (num * 100) den
  .ofList (decimal (hundredths / 100) ++ '.' :: paddedDecimal 2 (hundredths % 100))

/-- A span in a unit of `10 ^ places` nanoseconds, without zeros at the end of the fraction. -/
def spanIn (places nanoseconds : Nat) : List Char :=
  let unit := Nat.pow 10 places
  let fraction := ((paddedDecimal places (nanoseconds % unit)).reverse.dropWhile
    (· == '0')).reverse
  decimal (nanoseconds / unit) ++
    if places = 0 ∨ fraction.isEmpty then [] else '.' :: fraction

def spanText (nanoseconds : Nat) : String :=
  if 1000000000 ≤ nanoseconds then .ofList (spanIn 9 nanoseconds) ++ "s"
  else if 1000000 ≤ nanoseconds then .ofList (spanIn 6 nanoseconds) ++ "ms"
  else if 1000 ≤ nanoseconds then .ofList (spanIn 3 nanoseconds) ++ "µs"
  else .ofList (spanIn 0 nanoseconds) ++ "ns"

example : twoPlaces 51200 1024 = "50.00" := by decide +kernel
example : spanText 1500000000 = "1.5s" := by decide +kernel
example : spanText 999 = "999ns" := by decide +kernel

end OrdersContract.Text
