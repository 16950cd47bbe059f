import OrdersContract.Address.Label
import OrdersContract.Address.Percent
import OrdersContract.Text.Pieces

/-!
Host names in ASCII. Characters are brought to one form first; then each label is written for
itself. In a name with a label from right to left all labels have to keep their direction.
-/

set_option autoImplicit false

namespace OrdersContract.Address.Domain

open Text

def isForbidden (c : Char) : Bool :=
  c.toNat ≤ 0x20 || c.toNat = 0x7f ||
    ['%', '#', '/', ':', '<', '>', '?', '@', '[', '\\', ']', '^', '|'].contains c

def directionsAgree (labels : List Label) : Bool :=
  !labels.any (·.hasRightToLeft) || labels.all (·.keepsDirection)

def ascii? (chars : List Char) : Option (List Char) := do
  let chars ← hostText? chars
  if chars.any isForbidden then none
  else
    let labels ← (pieces '.' chars).mapM Label.read?
    if directionsAgree labels then some (['.'].intercalate (labels.map (·.written))) else none

def read? (chars : List Char) : Option (List Char) := (text? (decode chars)).bind ascii?

example : read? "A%41.Bücher".toList = some "aa.xn--bcher-kva".toList := by decide +kernel
example : read? "xn--BCHER-kva".toList = some "xn--bcher-kva".toList := by decide +kernel
example : read? ['a', '\u05d0'] = none := by decide +kernel

end OrdersContract.Address.Domain
