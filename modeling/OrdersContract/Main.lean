import OrdersContract.Exchange.Recording
import OrdersContract.Settings

/-!
The command line. The answers of the server are read from standard input, one JSON object a line.
-/

set_option autoImplicit false

namespace OrdersContract.CommandLine

def program : String := "orders-contract-check"

def environment : IO (String → Option String) := do
  let names := [Settings.contractVariable, Settings.timeoutVariable, Settings.payloadLimitVariable,
    Settings.formatVariable]
  let values ← (names.mapM IO.getEnv : BaseIO (List (Option String)))
  return fun name => ((names.zip values).lookup name).join

partial def readAnswers (input : IO.FS.Stream) (done : List RecordedAnswer) :
    IO (List RecordedAnswer) := do
  let line ← input.getLine
  if line.isEmpty then return done.reverse
  match Json.parse (Text.Utf8.encode line.toList) with
  | .ok value => readAnswers input (.ofValue value :: done)
  | .error error => readAnswers input (⟨.error (.body error.message), 1⟩ :: done)

end OrdersContract.CommandLine

open OrdersContract CommandLine in
def main (arguments : List String) : IO UInt32 := do
  match Settings.resolve arguments (← environment) with
  | .error error =>
    IO.eprintln (program ++ ": configuration error: " ++ error.message)
    return .ofNat ExitStatus.checksFailed.code
  | .ok settings =>
    match endpoint settings.baseUrl Contract.ordersPath with
    | .error error =>
      IO.eprintln (program ++ ": " ++ error.message)
      return .ofNat ExitStatus.noResponse.code
    | .ok address =>
      let answers ← readAnswers (← IO.getStdin) []
      let (session, _) := Session.run settings.contract.name (Recording.fetcher address)
        (settings.contract.scenarios settings.payloadLimit) (Recording.start answers)
      IO.print (session.render settings.format)
      return .ofNat session.exitStatus.code
