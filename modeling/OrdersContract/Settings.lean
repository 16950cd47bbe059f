import OrdersContract.Contract.Preset
import OrdersContract.Report.Rendered

set_option autoImplicit false

namespace OrdersContract

open Text

structure Settings where
  baseUrl : String
  contract : Preset
  timeoutSeconds : Nat
  payloadLimit : Nat
  format : OutputFormat
deriving DecidableEq

inductive SettingsError where
  | contract (text : String)
  | notPositive (name text : String)
  | format (text : String)
  | extraArgument (text : String)
  | baseUrl (url reason : String)
deriving DecidableEq

def SettingsError.message : SettingsError → String
  | contract text => Preset.unknownMessage text
  | notPositive name text => name ++ " must be a positive integer, got " ++ quoted text
  | format text => "ORDERS_CHECK_FORMAT must be \"text\" or \"json\", got " ++ quoted text
  | extraArgument text =>
    "unexpected argument " ++ quoted text ++ " (usage: orders-contract-check [BASE_URL])"
  | baseUrl url reason =>
    "BASE_URL must be an http(s) URL with a host, got " ++ quoted url ++ ": " ++ reason

namespace Settings

def localServer : String := "http://localhost:8080"

def default : Settings :=
  { baseUrl := localServer
    contract := .default
    timeoutSeconds := 10
    payloadLimit := Contract.usualPayloadLimit
    format := .text }

def contractVariable : String := "ORDERS_CHECK_CONTRACT"
def timeoutVariable : String := "ORDERS_CHECK_TIMEOUT_SECS"
def payloadLimitVariable : String := "ORDERS_CHECK_MAX_PAYLOAD_BYTES"
def formatVariable : String := "ORDERS_CHECK_FORMAT"

def baseUrlFault? (url : String) : Option String :=
  match Address.parse url with
  | .error fault => some fault.message
  | .ok address =>
    if address.scheme ≠ "http" ∧ address.scheme ≠ "https" then
      some ("unsupported scheme " ++ quoted address.scheme)
    else if address.hasHost then none
    else some "missing host"

-- A positive number of at most 64 bits; a plus sign may be in front of it.
def readPositive? (text : String) : Option Nat :=
  let digits := match (trim text).toList with
    | '+' :: rest => rest
    | rest => rest
  (readDecimal? digits).filter fun n => 0 < n && n < 0x10000000000000000

def readFormat? (text : String) : Option OutputFormat :=
  let name := trim text
  if name = "text" then some .text else if name = "json" then some .json else none

def fromVariable {α : Type} (environment : String → Option String) (name : String)
    (read : String → Option α) (error : String → SettingsError) (fallback : α) :
    Except SettingsError α :=
  match environment name with
  | none => .ok fallback
  | some text =>
    match read text with
    | some value => .ok value
    | none => .error (error text)

def resolve (arguments : List String) (environment : String → Option String) :
    Except SettingsError Settings := do
  let baseUrl := arguments.head?.getD default.baseUrl
  -- Arguments are judged before the environment.
  if let some extra := arguments[1]? then throw (.extraArgument extra)
  if let some reason := baseUrlFault? baseUrl then throw (.baseUrl baseUrl reason)
  let contract ← fromVariable environment contractVariable Preset.ofName? .contract
    default.contract
  let timeoutSeconds ← fromVariable environment timeoutVariable readPositive?
    (.notPositive timeoutVariable) default.timeoutSeconds
  let payloadLimit ← fromVariable environment payloadLimitVariable readPositive?
    (.notPositive payloadLimitVariable) default.payloadLimit
  let format ← fromVariable environment formatVariable readFormat? .format default.format
  return { baseUrl, contract, timeoutSeconds, payloadLimit, format }

end Settings

end OrdersContract
