import OrdersContract.Text.Digits
import OrdersContract.Text.Printable

set_option autoImplicit false

namespace OrdersContract.Text

def quotedChar (c : Char) : String :=
  if c = '"' then "\\\""
  else if c = '\\' then "\\\\"
  else if c = '\t' then "\\t"
  else if c = '\n' then "\\n"
  else if c = '\r' then "\\r"
  else if c = '\x00' then "\\0"
  else if isPrintable c then c.toString
  else "\\u\x7b" ++ hexText c.toNat ++ "\x7d"

def quoted (text : String) : String :=
  "\"" ++ String.join (text.toList.map quotedChar) ++ "\""

example : quoted "a'\"\u001b[0m" = "\"a'\\\"\\u\x7b1b\x7d[0m\"" := by decide +kernel

end OrdersContract.Text
