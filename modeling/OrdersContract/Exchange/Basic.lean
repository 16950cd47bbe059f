import OrdersContract.Address.Query
import OrdersContract.Address.Read
import OrdersContract.Json.Read
import OrdersContract.Text.Blank
import OrdersContract.Text.Fixed

set_option autoImplicit false

namespace OrdersContract

open Json

structure Response where
  status : Nat
  contentType : Option String
  body : List UInt8

def Response.document (response : Response) : Except ReadError Value := Json.parse response.body

inductive TransportError where
  | invalidTarget (url reason : String)
  | connect (message : String)
  | timeout (nanoseconds : Nat)
  | request (message : String)
  | body (message : String)
  | client (message : String)
deriving DecidableEq

def TransportError.message : TransportError → String
  | invalidTarget url reason => "invalid target URL " ++ url ++ ": " ++ reason
  | connect message => "connection failed: " ++ message
  | timeout nanoseconds => "request timed out after " ++ Text.spanText nanoseconds
  | request message => "request failed: " ++ message
  | body message => "failed to read response body: " ++ message
  | client message => "HTTP client setup failed: " ++ message

structure Fetcher (σ : Type) where
  target : Query → σ → String
  fetch : Query → σ → Except TransportError Response × σ
  issued : σ → Nat

def endpoint (base path : String) : Except TransportError Address :=
  -- The path brings its own slash.
  let joined := .ofList (Text.dropEndWhile (· == '/') base.toList) ++ path
  match Address.parse joined with
  | .ok address => .ok address
  | .error fault => .error (.invalidTarget joined fault.message)

end OrdersContract
