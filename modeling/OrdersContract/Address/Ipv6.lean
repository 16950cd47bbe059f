import OrdersContract.Text.Digits
import OrdersContract.Text.Pieces

set_option autoImplicit false

namespace OrdersContract.Address.Ipv6

open Text

def piece? (chars : List Char) : Option Nat :=
  if chars.isEmpty || 4 < chars.length then none
  else (chars.mapM hexDigitValue?).map (numeral 16)

def byte? (chars : List Char) : Option Nat :=
  if chars.head? = some '0' ∧ 1 < chars.length then none
  else (readDecimal? chars).filter (· ≤ 255)

def dotted? (chars : List Char) : Option (List Nat) :=
  match (pieces '.' chars).mapM byte? with
  | some [a, b, c, d] => some [a * 256 + b, c * 256 + d]
  | _ => none

/-- Numbers between colons; only the last may be dotted, and only where `tail` holds. -/
def numbers? (tail : Bool) : List (List Char) → Option (List Nat)
  | [] => some []
  | [last] =>
    if tail && last.contains '.' then dotted? last else (piece? last).map ([·])
  | first :: rest => do
    let number ← piece? first
    let others ← numbers? tail rest
    some (number :: others)

def side? (tail : Bool) (chars : List Char) : Option (List Nat) :=
  if chars.isEmpty then some [] else numbers? tail (pieces ':' chars)

def gap? : List Char → Option (List Char × List Char)
  | ':' :: ':' :: rest => some ([], rest)
  | c :: rest => (gap? rest).map fun (before, after) => (c :: before, after)
  | [] => none

def parse? (chars : List Char) : Option (List Nat) :=
  match gap? chars with
  | some (before, after) => do
    let left ← side? false before
    let right ← side? true after
    if left.length + right.length ≤ 7 then
      some (left ++ List.replicate (8 - left.length - right.length) 0 ++ right)
    else none
  | none => do
    let all ← numbers? true (pieces ':' chars)
    if all.length = 8 then some all else none

/-- Where the longest run of zeros starts, and its length; of equal runs the first. -/
def longestZeros : List Nat → Nat × Nat
  | [] => (0, 0)
  | number :: rest =>
    let here := ((number :: rest).takeWhile (· == 0)).length
    let (start, length) := longestZeros rest
    if length ≤ here then (0, here) else (start + 1, length)

def joined (numbers : List Nat) : List Char :=
  match numbers with
  | [] => []
  | first :: rest =>
    digitsBefore 16 first [] ++ rest.flatMap fun number => ':' :: digitsBefore 16 number []

def chars (numbers : List Nat) : List Char :=
  let (start, length) := longestZeros numbers
  '[' :: (if 2 ≤ length then
    joined (numbers.take start) ++ ':' :: ':' :: joined (numbers.drop (start + length))
  else joined numbers) ++ [']']

example : (parse? "::FFFF:1.2.3.4".toList).map chars = some "[::ffff:102:304]".toList := by
  decide +kernel
example : (parse? "1:0:0:2:0:0:0:3".toList).map chars = some "[1:0:0:2::3]".toList := by
  decide +kernel

end OrdersContract.Address.Ipv6
