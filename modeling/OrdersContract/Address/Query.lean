import OrdersContract.Address.Basic
import OrdersContract.Address.Percent
import OrdersContract.Address.Segments

set_option autoImplicit false

namespace OrdersContract

open Text

abbrev Query := List (String × String)

namespace Query

def staysPlain (c : Char) : Bool :=
  Address.isLetter c || isDigit c || ['*', '-', '.', '_'].contains c

def componentChars (text : String) : List Char :=
  text.toList.flatMap fun c =>
    if staysPlain c then [c]
    else if c = ' ' then ['+']
    else (Utf8.encodeChar c).flatMap Address.escapedByte

def pairChars (pair : String × String) : List Char :=
  componentChars pair.1 ++ '=' :: componentChars pair.2

def chars (query : Query) : List Char := ['&'].intercalate (query.map pairChars)

end Query

namespace Address

def withQuery (address : Address) (query : Query) : Address :=
  if query.isEmpty then address
  else
    let before := match address.query with
      | some text => if text.isEmpty then "" else text ++ "&"
      | none => ""
    { address with query := some (before ++ .ofList query.chars) }

end Address

end OrdersContract
