import OrdersContract.Text.Digits

/-!
What can be wrong with a JSON text, and where. A fault lies at a byte of the text; messages name it
by its line and by its column, in bytes, within the line.
-/

set_option autoImplicit false

namespace OrdersContract.Json

inductive Cause where
  | unfinishedList
  | unfinishedObject
  | unfinishedString
  | unfinishedValue
  | expectedColon
  | expectedListCommaOrEnd
  | expectedObjectCommaOrEnd
  | expectedIdent
  | expectedValue
  | invalidEscape
  | invalidNumber
  | numberOutOfRange
  | invalidCodePoint
  | controlCharacter
  | keyMustBeString
  | loneSurrogate
  | trailingComma
  | trailingCharacters
  | unexpectedEndOfHexEscape
  | recursionLimitExceeded
deriving DecidableEq

namespace Cause

def message : Cause → String
  | unfinishedList => "EOF while parsing a list"
  | unfinishedObject => "EOF while parsing an object"
  | unfinishedString => "EOF while parsing a string"
  | unfinishedValue => "EOF while parsing a value"
  | expectedColon => "expected \x60:\x60"
  | expectedListCommaOrEnd => "expected \x60,\x60 or \x60]\x60"
  | expectedObjectCommaOrEnd => "expected \x60,\x60 or \x60\x7d\x60"
  | expectedIdent => "expected ident"
  | expectedValue => "expected value"
  | invalidEscape => "invalid escape"
  | invalidNumber => "invalid number"
  | numberOutOfRange => "number out of range"
  | invalidCodePoint => "invalid unicode code point"
  | controlCharacter => "control character (\\u0000-\\u001F) found while parsing a string"
  | keyMustBeString => "key must be a string"
  | loneSurrogate => "lone leading surrogate in hex escape"
  | trailingComma => "trailing comma"
  | trailingCharacters => "trailing characters"
  | unexpectedEndOfHexEscape => "unexpected end of hex escape"
  | recursionLimitExceeded => "recursion limit exceeded"

end Cause

/-- A fault and how many bytes of the text lie behind it. -/
structure Fault where
  cause : Cause
  left : Nat
deriving DecidableEq

structure Position where
  line : Nat
  column : Nat
deriving DecidableEq

def Position.after (bytes : List UInt8) (index : Nat) : Position :=
  let before := bytes.take index
  { line := before.count 10 + 1
    column := (before.reverse.takeWhile (· != 10)).length }

structure ReadError where
  cause : Cause
  position : Position
deriving DecidableEq

def Fault.locate (bytes : List UInt8) (fault : Fault) : ReadError :=
  ⟨fault.cause, .after bytes (bytes.length - fault.left)⟩

def ReadError.message (error : ReadError) : String :=
  error.cause.message ++ " at line " ++ Text.decimalText error.position.line ++
    " column " ++ Text.decimalText error.position.column

end OrdersContract.Json
