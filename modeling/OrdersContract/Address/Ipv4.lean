import OrdersContract.Text.Digits
import OrdersContract.Text.Pieces

set_option autoImplicit false

namespace OrdersContract.Address.Ipv4

open Text

def allDigits (base : Nat) (chars : List Char) : Option (List Nat) :=
  chars.mapM fun c => (hexDigitValue? c).filter (· < base)

/-- One number; a `0x` in front sets base 16 and any other `0` in front base 8. -/
def number? : List Char → Option Nat
  | [] => none
  | '0' :: 'x' :: digits => (allDigits 16 digits).map (numeral 16)
  | '0' :: 'X' :: digits => (allDigits 16 digits).map (numeral 16)
  | '0' :: c :: digits => (allDigits 8 (c :: digits)).map (numeral 8)
  | digits => (allDigits 10 digits).map (numeral 10)

def parts (host : List Char) : List (List Char) :=
  -- `1.2.3.4.` is the address `1.2.3.4`.
  let all := pieces '.' host
  if all.getLast? = some [] then all.dropLast else all

def endsInNumber (host : List Char) : Bool :=
  match (parts host).getLast? with
  | some last => !last.isEmpty && last.all isDigit || (number? last).isSome
  | none => false

def parse? (host : List Char) : Option Nat := do
  let numbers ← (parts host).mapM number?
  let last ← numbers.getLast?
  let leading := numbers.dropLast
  let room := Nat.pow 256 (4 - leading.length)
  if numbers.length ≤ 4 ∧ leading.all (· ≤ 255) ∧ last < room then
    some (leading.foldr (fun byte (value, weight) => (value + byte * weight, weight * 256))
      (last, room)).1
  else none

def chars (address : Nat) : List Char :=
  decimal (address / 16777216 % 256) ++ '.' :: decimal (address / 65536 % 256) ++
    '.' :: decimal (address / 256 % 256) ++ '.' :: decimal (address % 256)

example : (parse? "1.2.3.4".toList).map chars = some "1.2.3.4".toList := by decide +kernel
example : (parse? "0x7f.1".toList).map chars = some "127.0.0.1".toList := by decide +kernel

end OrdersContract.Address.Ipv4
