import OrdersContract.Address.Basic
import OrdersContract.Address.Domain
import OrdersContract.Address.Segments
import OrdersContract.Text.Blank

/-!
Reading an absolute address as a browser does. Schemes of the web have a host and take a backslash
for a slash; `file` may do without a host; other schemes may have no authority at all, and then
their path is opaque unless it starts with a slash.
-/

set_option autoImplicit false

namespace OrdersContract

open Text

namespace Address

inductive SchemeKind where
  | web (defaultPort : Nat)
  | file
  | other
deriving DecidableEq

def SchemeKind.of (scheme : String) : SchemeKind :=
  if scheme = "http" ∨ scheme = "ws" then .web 80
  else if scheme = "https" ∨ scheme = "wss" then .web 443
  else if scheme = "ftp" then .web 21
  else if scheme = "file" then .file
  else .other

def SchemeKind.isSpecial (kind : SchemeKind) : Bool := kind != .other

def SchemeKind.defaultPort? : SchemeKind → Option Nat
  | .web port => some port
  | _ => none

def isSchemeChar (c : Char) : Bool := isLetter c || isDigit c || ['+', '-', '.'].contains c

def scheme? (chars : List Char) : Option (String × List Char) :=
  let name := chars.takeWhile isSchemeChar
  match chars.head?, chars.dropWhile isSchemeChar with
  | some first, ':' :: rest =>
    if isLetter first then some (.ofList (name.map Char.toLower), rest) else none
  | _, _ => none

def endsAuthority (special : Bool) (c : Char) : Bool :=
  ['/', '?', '#'].contains c || special && c == '\\'

structure Credentials where
  username : List Char
  password : Option (List Char)

def Credentials.ofChars (chars : List Char) : Credentials :=
  match cut? ':' chars with
  | none => ⟨encode inUserinfoSet chars, none⟩
  | some (username, password) =>
    ⟨encode inUserinfoSet username,
      if password.isEmpty then none else some (encode inUserinfoSet password)⟩

def Credentials.isEmpty (credentials : Credentials) : Bool :=
  credentials.username.isEmpty && credentials.password.isNone

def credentials (special : Bool) (chars : List Char) :
    Except AddressFault (Credentials × List Char) :=
  let authority := chars.takeWhile fun c => !endsAuthority special c
  if authority.contains '@' then
    let tail := authority.reverse.takeWhile (· != '@')
    let user := authority.take (authority.length - tail.length - 1)
    let rest := chars.drop (user.length + 1)
    -- An `@` needs something on one of its sides.
    if user.isEmpty && rest.head?.any (endsAuthority special) then .error .emptyHost
    else .ok (.ofChars user, rest)
  else .ok (⟨[], none⟩, chars)

/-- The characters of a host: a colon ends it only outside brackets. -/
def hostLength (special inBrackets : Bool) : List Char → Nat
  | [] => 0
  | c :: rest =>
    if endsAuthority special c || c == ':' && !inBrackets then 0
    else hostLength special (if c = '[' then true else if c = ']' then false else inBrackets) rest + 1

def bracketed (chars : List Char) : Except AddressFault Host :=
  if chars.getLast? = some ']' then
    match Ipv6.parse? (chars.drop 1).dropLast with
    | some numbers => .ok (.ipv6 numbers)
    | none => .error .ipv6
  else .error .ipv6

def isForbiddenInHost (c : Char) : Bool :=
  ['\x00', '\t', '\n', '\r', ' ', '#', '/', ':', '<', '>', '?', '@', '[', '\\', ']', '^',
    '|'].contains c

-- A host of a scheme that gives it no meaning.
def opaqueHost (chars : List Char) : Except AddressFault (Option Host) :=
  if chars.head? = some '[' then (bracketed chars).map some
  else if chars.any isForbiddenInHost then .error .hostCharacter
  else .ok (if chars.isEmpty then none else some (.name (.ofList (encode isControl chars))))

def domainHost (chars : List Char) : Except AddressFault Host :=
  if chars.head? = some '[' then bracketed chars
  else
    match Domain.read? chars with
    | none => .error .domainName
    | some [] => .error .emptyHost
    | some name =>
      if Ipv4.endsInNumber name then
        match Ipv4.parse? name with
        | some value => .ok (.ipv4 value)
        | none => .error .ipv4
      else .ok (.name (.ofList name))

def port (kind : SchemeKind) (chars : List Char) :
    Except AddressFault (Option Nat × List Char) :=
  let digits := chars.takeWhile isDigit
  let rest := chars.drop digits.length
  let value := numeral 10 (digits.filterMap digitValue?)
  if 65535 < value then .error .port
  else if rest.head?.all (['/', '\\', '?', '#'].contains ·) then
    .ok (if digits.isEmpty ∨ kind.defaultPort? = some value then none else some value, rest)
  else .error .port

def hostAndPort (kind : SchemeKind) (chars : List Char) :
    Except AddressFault (Option Host × Option Nat × List Char) := do
  let length := hostLength kind.isSpecial false chars
  let name := chars.take length
  let rest := chars.drop length
  let host ←
    if kind.isSpecial then
      if name.isEmpty then .error .emptyHost else (domainHost name).map some
    else opaqueHost name
  match rest with
  | ':' :: rest =>
    if host.isNone then .error .emptyHost
    else
      let (port, rest) ← port kind rest
      .ok (host, port, rest)
  | rest => .ok (host, none, rest)

def startsQuery (c : Char) : Bool := c == '?' || c == '#'

def pathAfterAuthority (kind : SchemeKind) (chars : List Char) : Trail :=
  if kind.isSpecial then
    match chars with
    | '/' :: rest => follow (kind == .file) true ['/'] rest
    | '\\' :: rest => follow (kind == .file) true ['/'] rest
    | rest => follow (kind == .file) true ['/'] rest
  else
    match chars with
    | [] => ⟨[], false⟩
    | '/' :: rest => follow false false [] ('/' :: rest)
    | rest => follow false false ['/'] rest

def queryAndFragment (special : Bool) (chars : List Char) : Option String × Option String :=
  let queryChars (query : List Char) : String :=
    .ofList (encode (if special then inSpecialQuerySet else inQuerySet) query)
  let fragmentChars (fragment : List Char) : String := .ofList (encode inFragmentSet fragment)
  match chars with
  | '?' :: rest =>
    match cut? '#' rest with
    | some (query, fragment) => (some (queryChars query), some (fragmentChars fragment))
    | none => (some (queryChars rest), none)
  | '#' :: rest => (none, some (fragmentChars rest))
  | _ => (none, none)

def untilQuery (chars : List Char) : List Char × List Char :=
  (chars.takeWhile fun c => !startsQuery c, chars.dropWhile fun c => !startsQuery c)

-- Behind the two slashes of any scheme but `file`.
def withAuthority (scheme : String) (kind : SchemeKind) (chars : List Char) :
    Except AddressFault Address := do
  let (user, rest) ← credentials kind.isSpecial chars
  let (host, port, rest) ← hostAndPort kind rest
  if host.isNone && !user.isEmpty then .error .emptyHost
  else
    let (path, rest) := untilQuery rest
    let (query, fragment) := queryAndFragment kind.isSpecial rest
    .ok
      { scheme
        authority := some ⟨.ofList user.username, user.password.map .ofList, host, port⟩
        path := .ofList (pathAfterAuthority kind path).path
        query
        fragment }

def ofFile (host : Option Host) (trail : Trail) (rest : List Char) : Address :=
  let (query, fragment) := queryAndFragment true (kept rest)
  { scheme := "file"
    authority := some ⟨"", none, if trail.dropsHost then none else host, none⟩
    path := .ofList trail.path
    query
    fragment }

/-- The host of a file behind two slashes: none where a drive letter stands, and none for the local
host. -/
def fileHost (chars : List Char) : Except AddressFault (Option Host × List Char) :=
  let name := kept (chars.takeWhile fun c => !endsAuthority true c)
  if name.isEmpty || isDrive name then .ok (none, chars)
  else
    (domainHost name).map fun host =>
      (if host = .name "localhost" then none else some host,
        chars.dropWhile fun c => !endsAuthority true c)

def isSlash (c : Char) : Bool := c == '/' || c == '\\'

def afterSlash? (chars : List Char) : Option (List Char) :=
  match chars.dropWhile isSkipped with
  | [] => none
  | c :: rest => if isSlash c then some rest else none

/-- Behind the colon of `file`. Skipped characters still stand in `chars`, since they tell how a path
with a drive letter is cut. -/
def file (chars : List Char) : Except AddressFault Address :=
  match (afterSlash? chars).bind afterSlash? with
  | some rest =>
    (fileHost rest).map fun (host, rest) =>
      let (path, rest) := untilQuery rest
      let trail := if host.isSome then pathAfterAuthority .file path
        else follow true true ['/'] path
      ofFile host trail rest
  | none =>
    let (path, rest) := untilQuery chars
    .ok (ofFile none (follow true true (if (afterSlash? chars).isSome then [] else ['/']) path) rest)

def withoutAuthority (scheme : String) (chars : List Char) : Address :=
  let (path, rest) := untilQuery chars
  let (query, fragment) := queryAndFragment false rest
  { scheme
    authority := none
    path := .ofList
      (if path.head? = some '/' then (follow false false [] path).path else encode isControl path)
    query
    fragment }

def isMargin (c : Char) : Bool := c.toNat ≤ 0x20

def withoutMargin (text : String) : List Char :=
  dropEndWhile isMargin (text.toList.dropWhile isMargin)

def parse (text : String) : Except AddressFault Address :=
  let chars := withoutMargin text
  match scheme? (kept chars) with
  | none => .error .noScheme
  | some (scheme, rest) =>
    match SchemeKind.of scheme with
    | .file => file ((chars.dropWhile (· != ':')).drop 1)
    | .web port => withAuthority scheme (.web port) (rest.dropWhile isSlash)
    | .other =>
      match rest with
      | '/' :: '/' :: rest => withAuthority scheme .other rest
      | rest => .ok (withoutAuthority scheme rest)

end Address

end OrdersContract
