import OrdersContract.Text.Digits
import OrdersContract.Text.Utf8

set_option autoImplicit false

namespace OrdersContract.Address

open Text

def upperHexDigit (value : Nat) : Char :=
  if value < 10 then .ofNat ('0'.toNat + value) else .ofNat ('A'.toNat + (value - 10))

def escapedByte (byte : UInt8) : List Char :=
  ['%', upperHexDigit (byte.toNat / 16), upperHexDigit (byte.toNat % 16)]

def encode (encoded : Char → Bool) (chars : List Char) : List Char :=
  chars.flatMap fun c => if encoded c then (Utf8.encodeChar c).flatMap escapedByte else [c]

def isControl (c : Char) : Bool := c.toNat < 0x20 || 0x7f ≤ c.toNat

def inFragmentSet (c : Char) : Bool := isControl c || [' ', '"', '<', '>', '\x60'].contains c

def inPathSet (c : Char) : Bool := inFragmentSet c || ['#', '?', '\x7b', '\x7d'].contains c

def inUserinfoSet (c : Char) : Bool :=
  inPathSet c || ['/', ':', ';', '=', '@', '[', '\\', ']', '^', '|'].contains c

def inQuerySet (c : Char) : Bool := isControl c || [' ', '"', '#', '<', '>'].contains c

def inSpecialQuerySet (c : Char) : Bool := inQuerySet c || c == '\''

/-- The bytes that a text with percent escapes stands for. A `%` without two hexadecimal digits
stands for itself. -/
def decode : List Char → List UInt8
  | '%' :: a :: b :: rest =>
    match hexDigitValue? a, hexDigitValue? b with
    | some high, some low => .ofNat (high * 16 + low) :: decode rest
    | _, _ => Utf8.encodeChar '%' ++ decode (a :: b :: rest)
  | c :: rest => Utf8.encodeChar c ++ decode rest
  | [] => []

def text? (bytes : List UInt8) : Option (List Char) :=
  (Utf8.decode bytes).mapM fun symbol =>
    match symbol with
    | .char c => some c
    | .stray _ => none

example : encode inPathSet ['a', ' ', 'é'] = ['a', '%', '2', '0', '%', 'C', '3', '%', 'A', '9'] := by
  decide +kernel

end OrdersContract.Address
