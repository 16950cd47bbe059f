import OrdersContract.Address.HostCharacter
import OrdersContract.Address.Punycode
import OrdersContract.Text.Blank
import OrdersContract.Text.Joining
import OrdersContract.Text.WritingDirection

set_option autoImplicit false

namespace OrdersContract.Address

open Text

structure Label where
  written : List Char
  characters : List Char

namespace Label

def isAscii (chars : List Char) : Bool := chars.all (·.toNat < 0x80)

/-- A joiner stands after a virama; the one that keeps letters apart also between two letters that
would join without it. `before` is listed from the last. -/
def allowsJoiner (joiner : Char) (before after : List Char) : Bool :=
  match before with
  | [] => false
  | last :: _ =>
    combiningClass last == viramaClass || (joiner = '\u200c' && joinsAcross before after)

def joinersFit (before : List Char) : List Char → Bool
  | [] => true
  | c :: rest => (!isJoiner c || allowsJoiner c before rest) && joinersFit (c :: before) rest

example : joinersFit [] ['\u0915', '\u094d', '\u200d'] = true := by decide +kernel
example : joinersFit [] ['a', '\u200d', 'b'] = false := by decide +kernel

def maxCharacters : Nat := 1000
def maxEncoded : Nat := 2000

def isProper (chars : List Char) : Bool :=
  chars.length ≤ maxCharacters && !(chars.head?.any isMark) && joinersFit [] chars

def encodedMark : List Char := ['x', 'n', '-', '-']

/-- The characters of an encoded label. A name that holds them plainly has to read the same. -/
def decode? (encoded : List Char) : Option (List Char) :=
  if encoded.getLast? = some '-' ∨ encoded = [] ∨ maxEncoded < encoded.length then none
  else
    (Punycode.decode? encoded).filter fun chars =>
      chars.all (fun c => hostCharacter c = .stays) && composed chars == chars && isProper chars

def read? (chars : List Char) : Option Label :=
  if encodedMark.isPrefixOf chars then
    if isAscii chars then (decode? (chars.drop encodedMark.length)).map (⟨chars, ·⟩) else none
  else if isAscii chars then some ⟨chars, chars⟩
  else if isProper chars then some ⟨encodedMark ++ Punycode.encode chars, chars⟩
  else none

def hasRightToLeft (label : Label) : Bool :=
  label.characters.any fun c => [.right, .arabicNumber].contains (writingDirection c)

def keepsLeft (directions : List WritingDirection) : Bool :=
  directions.getLast?.all [.left, .europeanNumber].contains &&
    directions.all [.left, .europeanNumber, .neutral, .mark].contains

def keepsRight (directions : List WritingDirection) : Bool :=
  directions.getLast?.all [.right, .europeanNumber, .arabicNumber].contains &&
    !directions.contains .left &&
    !(directions.contains .europeanNumber && directions.contains .arabicNumber)

/-- A label starts with a letter and stays in its direction; marks at its end do not count. -/
def keepsDirection (label : Label) : Bool :=
  match label.characters.map writingDirection with
  | [] => true
  | first :: rest =>
    let rest := dropEndWhile (· == .mark) rest
    match first with
    | .left => keepsLeft rest
    | .right => keepsRight rest
    | _ => false

end Label

end OrdersContract.Address
