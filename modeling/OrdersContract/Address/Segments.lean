import OrdersContract.Address.Percent
import OrdersContract.Text.Pieces

set_option autoImplicit false

namespace OrdersContract.Address

open Text

def isLetter (c : Char) : Bool := 'a' ≤ c && c ≤ 'z' || 'A' ≤ c && c ≤ 'Z'

-- A letter and a colon or a bar, and then the end or the end of a segment.
def startsWithDrive : List Char → Bool
  | [a, b] => isLetter a && [':', '|'].contains b
  | a :: b :: c :: _ => isLetter a && [':', '|'].contains b && ['/', '\\', '?', '#'].contains c
  | _ => false

def isDrive (chars : List Char) : Bool := chars.length == 2 && startsWithDrive chars

def isNormalDrive (chars : List Char) : Bool := isDrive chars && chars[1]? == some ':'

def isSkipped (c : Char) : Bool := c == '\t' || c == '\n' || c == '\r'

def kept (chars : List Char) : List Char := chars.filter fun c => !isSkipped c

/-- A drive letter that skipped characters set off from the rest of its segment. -/
def setOffDrive? (segment : List Char) : Option (List Char × List Char) :=
  match segment.dropWhile isSkipped with
  | [] => none
  | a :: rest =>
    match rest.dropWhile isSkipped with
    | b :: mark :: rest =>
      if isNormalDrive [a, b] && isSkipped mark && !(kept rest).isEmpty then some ([a, b], kept rest)
      else none
    | _ => none

inductive Dots where
  | none
  | one
  | two
deriving DecidableEq

-- Points may be written as percent escapes.
def dotsOf (segment : List Char) : Dots :=
  let plain := segment.map Char.toLower
  if plain = ['.'] ∨ plain = ['%', '2', 'e'] then .one
  else if plain = ['.', '.'] ∨ plain = ['.', '%', '2', 'e'] ∨ plain = ['%', '2', 'e', '.'] ∨
    plain = ['%', '2', 'e', '%', '2', 'e'] then .two
  else .none

def endsInSlash (path : List Char) : Bool := path.getLast? == some '/'

def lastSegment (path : List Char) : List Char := (path.reverse.takeWhile (· != '/')).reverse

def closesSegment (path : List Char) : Bool :=
  let before := path.dropLast
  before.contains '/' && !startsWithDrive (lastSegment before ++ ['/'])

-- The path up to its last slash; a drive letter stays.
def dropSegment (isFile : Bool) (path : List Char) : List Char :=
  if isFile && isNormalDrive (lastSegment path) then path
  else dropEnd path
where
  dropEnd (path : List Char) : List Char := path.take (path.length - (lastSegment path).length)

def up (isFile : Bool) (path : List Char) : List Char :=
  dropSegment isFile (if endsInSlash path && closesSegment path then path.dropLast else path)

/-- A path built so far, and whether a drive letter in it rules a host out. -/
structure Trail where
  path : List Char
  dropsHost : Bool

def Trail.add (isFile : Bool) (trail : Trail) (segment : List Char) (slash : Bool) : Trail :=
  let close (path : List Char) : List Char := if slash then path ++ ['/'] else path
  let path := trail.path
  let isRoot := isFile && path.length == 1
  match if isRoot then setOffDrive? segment else none with
  | some (drive, rest) =>
    { trail with path := close (path ++ drive ++ '/' :: encode inPathSet rest) }
  | none =>
    let segment := encode inPathSet (kept segment)
    match dotsOf segment with
    | .two =>
      let path := up isFile path
      { trail with path := if slash && !endsInSlash path then path ++ ['/'] else path }
    | .one => { trail with path := if endsInSlash path then path else path ++ ['/'] }
    | .none =>
      if isRoot && isDrive segment then ⟨close (path ++ segment.take 1 ++ [':']), true⟩
      else { trail with path := close (path ++ segment) }

def Trail.addAll (isFile : Bool) (trail : Trail) : List (List Char) → Trail
  | [] => trail
  | [last] => trail.add isFile last false
  | segment :: rest => (trail.add isFile segment true).addAll isFile rest

def follow (isFile backslash : Bool) (start chars : List Char) : Trail :=
  let separated := if backslash then chars.map fun c => if c = '\\' then '/' else c else chars
  let trail := Trail.addAll isFile ⟨start, false⟩ (pieces '/' separated)
  if isFile then { trail with path := '/' :: trail.path.dropWhile (· == '/') } else trail

example : (follow false true [] "/a/./b/../c".toList).path = "/a/c".toList := by decide +kernel
example : (follow true true ['/'] "c|/../x".toList).path = "/c:/x".toList := by decide +kernel
example : (follow true true ['/'] "c:\tx".toList).path = "/c:/x".toList := by decide +kernel

end OrdersContract.Address
