import OrdersContract.Exchange.Basic
import OrdersContract.Report.Outcome
import OrdersContract.Text.Pieces
import OrdersContract.Text.Quoted

set_option autoImplicit false

namespace OrdersContract

open Text

structure ExchangeTerms where
  status : Nat := 200
  jsonContent : Bool := false
  oneRequest : Bool := false
  /-- The smallest size in bytes that is too large. -/
  payloadLimit : Option Nat := none
deriving DecidableEq

namespace ExchangeTerms

def statusOutcome (status : Nat) (response : Response) : Outcome :=
  .check ("HTTP status is " ++ decimalText status) (response.status == status)
    ("got " ++ decimalText response.status)

def contentOutcome (response : Response) : Outcome :=
  let contentType := response.contentType.getD ""
  .check "Content-Type is application/json"
    (containsText "application/json".toList contentType.toList) ("got " ++ quoted contentType)

def requestsOutcome (requests : Nat) : Outcome :=
  .check "data retrieved in exactly 1 HTTP request" (requests == 1)
    (decimalText requests ++ " requests issued")

def payloadOutcome (limit : Nat) (response : Response) : Outcome :=
  let size := response.body.length
  .check ("payload size is under " ++ decimalText limit ++ " bytes") (size < limit)
    ("body is " ++ decimalText size ++ " bytes (" ++ twoPlaces size 1024 ++ " KiB)")

def outcomes (terms : ExchangeTerms) (response : Response) (requests : Nat) : List Outcome :=
  statusOutcome terms.status response ::
    ((if terms.jsonContent then [contentOutcome response] else []) ++
      (if terms.oneRequest then [requestsOutcome requests] else []) ++
      (terms.payloadLimit.map (payloadOutcome · response)).toList)

end ExchangeTerms

end OrdersContract
