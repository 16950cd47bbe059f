import OrdersContract.Text.Blank
import OrdersContract.Text.Digits

/-!
Texts that name an instant: a date and a time of day with an offset from UTC, or without one. The
form with an offset has fixed widths. The form without one lets a number be shorter and stand
behind white space, and a year carry a sign.
-/

set_option autoImplicit false

namespace OrdersContract

open Text

structure Timestamp where
  year : Int
  month : Nat
  day : Nat
  hour : Nat
  minute : Nat
  second : Nat
deriving DecidableEq

namespace Timestamp

def isLeapYear (year : Int) : Bool := year % 4 == 0 && (year % 100 != 0 || year % 400 == 0)

def daysInMonth (year : Int) (month : Nat) : Nat :=
  if month = 2 then if isLeapYear year then 29 else 28
  else if month = 4 ∨ month = 6 ∨ month = 9 ∨ month = 11 then 30
  else 31

def earliestYear : Int := -262143
def latestYear : Int := 262142

-- On the calendar and on the clock; a minute may have a leap second.
def IsReal (t : Timestamp) : Prop :=
  earliestYear ≤ t.year ∧ t.year ≤ latestYear ∧ 1 ≤ t.month ∧ t.month ≤ 12 ∧ 1 ≤ t.day ∧
    t.day ≤ daysInMonth t.year t.month ∧ t.hour ≤ 23 ∧ t.minute ≤ 59 ∧ t.second ≤ 60

instance (t : Timestamp) : Decidable t.IsReal := by unfold IsReal; infer_instance

def number? (most : Nat) (chars : List Char) : Option (Nat × List Char) :=
  let digits := (chars.take most).takeWhile isDigit
  (readDecimal? digits).map (·, chars.drop digits.length)

def wide? (width : Nat) (chars : List Char) : Option (Nat × List Char) :=
  (readDecimal? (chars.take width)).bind fun value =>
    if width ≤ chars.length then some (value, chars.drop width) else none

def expect? (expected : Char) : List Char → Option (List Char)
  | c :: rest => if c = expected then some rest else none
  | [] => none

def fraction? : List Char → Option (List Char)
  | '.' :: c :: rest => if isDigit c then some (rest.dropWhile isDigit) else none
  | ['.'] => none
  | rest => some rest

def offsetSigns : List Char := ['+', '-', '\u2212']

def isOffset : List Char → Bool
  | ['Z'] => true
  | ['z'] => true
  | sign :: rest =>
    -- A plus, a hyphen or a minus.
    let offset? := do
      let (hours, rest) ← wide? 2 rest
      let rest ← expect? ':' rest
      let (minutes, rest) ← wide? 2 rest
      if rest.isEmpty then some (hours, minutes) else none
    match offset? with
    | some (hours, minutes) => offsetSigns.contains sign && hours ≤ 23 && minutes ≤ 59
    | none => false
  | [] => false

def separators : List Char := ['T', 't', ' ']

/-- A date and a time of day in fixed widths, and the text after them. -/
def fixed? (chars : List Char) : Option (Timestamp × List Char) := do
  let (year, rest) ← wide? 4 chars
  let rest ← expect? '-' rest
  let (month, rest) ← wide? 2 rest
  let rest ← expect? '-' rest
  let (day, rest) ← wide? 2 rest
  let rest ← match rest with
    | c :: rest => if separators.contains c then some rest else none
    | [] => none
  let (hour, rest) ← wide? 2 rest
  let rest ← expect? ':' rest
  let (minute, rest) ← wide? 2 rest
  let rest ← expect? ':' rest
  let (second, rest) ← wide? 2 rest
  let rest ← fraction? rest
  some (⟨year, month, day, hour, minute, second⟩, rest)

def isZoned (chars : List Char) : Bool :=
  match fixed? chars with
  | some (timestamp, rest) => timestamp.IsReal && isOffset rest
  | none => false

def skipBlanks (chars : List Char) : List Char := chars.dropWhile isBlank

-- At most four digits, or a sign and any number of them.
def year? (chars : List Char) : Option (Int × List Char) :=
  match skipBlanks chars with
  | '-' :: rest => (number? rest.length rest).map fun (year, rest) => (-(year : Int), rest)
  | '+' :: rest => (number? rest.length rest).map fun (year, rest) => ((year : Int), rest)
  | rest => (number? 4 rest).map fun (year, rest) => ((year : Int), rest)

def pair? (chars : List Char) : Option (Nat × List Char) := number? 2 (skipBlanks chars)

/-- A date and a time of day in free widths, and the text after them. -/
def free? (chars : List Char) : Option (Timestamp × List Char) := do
  let (year, rest) ← year? chars
  let rest ← expect? '-' rest
  let (month, rest) ← pair? rest
  let rest ← expect? '-' rest
  let (day, rest) ← pair? rest
  let rest ← expect? 'T' rest
  let (hour, rest) ← pair? rest
  let rest ← expect? ':' rest
  let (minute, rest) ← pair? rest
  let rest ← expect? ':' rest
  let (second, rest) ← pair? rest
  let rest ← fraction? rest
  some (⟨year, month, day, hour, minute, second⟩, rest)

def isLocal (chars : List Char) : Bool :=
  match free? chars with
  | some (timestamp, rest) => timestamp.IsReal && rest.isEmpty
  | none => false

end Timestamp

def isTimestamp (text : String) : Bool :=
  Timestamp.isZoned text.toList || Timestamp.isLocal text.toList

end OrdersContract
