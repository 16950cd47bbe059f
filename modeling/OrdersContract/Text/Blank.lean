set_option autoImplicit false

namespace OrdersContract.Text

/-- The characters with the Unicode property White_Space. -/
def blanks : List Char :=
  ['\t', '\n', '\x0b', '\x0c', '\r', ' ', '\x85', '\xa0', '\u1680', '\u2000', '\u2001', '\u2002',
    '\u2003', '\u2004', '\u2005', '\u2006', '\u2007', '\u2008', '\u2009', '\u200a', '\u2028',
    '\u2029', '\u202f', '\u205f', '\u3000']

def isBlank (c : Char) : Bool := blanks.contains c

def dropEndWhile {α : Type} (drop : α → Bool) (items : List α) : List α :=
  items.foldr (fun item rest => if rest.isEmpty && drop item then [] else item :: rest) []

def trim (text : String) : String :=
  .ofList (dropEndWhile isBlank (text.toList.dropWhile isBlank))

example : trim " \u00a0text\n" = "text" := by decide +kernel

end OrdersContract.Text
