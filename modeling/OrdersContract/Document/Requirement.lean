import OrdersContract.Address.Read
import OrdersContract.Document.Field
import OrdersContract.Document.Timestamp

set_option autoImplicit false

namespace OrdersContract

open Json Number

inductive AddressStrictness where
  | absolute
  | httpText
deriving DecidableEq

namespace Field

def string? : Field → Option String
  | present (.string s) => some s
  | _ => none

def items? : Field → Option (List Value)
  | present (.array items) => some items
  | _ => none

def number? : Field → Option Double
  | present (.number n) => some n.toDouble
  | _ => none

/-- A number without a fraction, such as `2.0`. -/
def integer? (field : Field) : Option Double := field.number?.filter Double.isIntegral

def isPresent (field : Field) : Bool := !field.isMissing

def isNonEmptyString (field : Field) : Bool := field.string?.any (!·.isEmpty)

def isNumber (field : Field) : Bool := field.number?.isSome

def isPositiveNumber (field : Field) : Bool := field.number?.any (.zero < ·)

def isInteger (field : Field) : Bool := field.integer?.isSome

def isNonNegativeInteger (field : Field) : Bool := field.integer?.any (.zero ≤ ·)

def isPositiveInteger (field : Field) : Bool := field.integer?.any (.zero < ·)

def isTimestamp (field : Field) : Bool := field.string?.any OrdersContract.isTimestamp

def isAddress (strictness : AddressStrictness) (field : Field) : Bool :=
  field.string?.any fun text =>
    match strictness with
    | .absolute =>
      match Address.parse text with
      | .ok address => address.hasHost
      | .error _ => false
    | .httpText => "http".toList.isPrefixOf text.toList

def isOneOf (allowed : List String) (field : Field) : Bool := field.string?.any allowed.contains

def isArray (field : Field) : Bool := field.items?.isSome

def isNonEmptyArray (field : Field) : Bool := field.items?.any (!·.isEmpty)

def isObject : Field → Bool
  | present (.object _) => true
  | _ => false

end Field

end OrdersContract
