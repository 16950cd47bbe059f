import OrdersContract.Exchange.Terms
import OrdersContract.Report.Session
import OrdersContract.Rule.Check

/-!
Sessions: scenarios in order, each one request and the checks on what comes back. A session ends
with the first scenario whose response cannot be had or whose body is not JSON.
-/

set_option autoImplicit false

namespace OrdersContract

open Json

structure Scenario where
  name : String
  query : Query
  exchange : ExchangeTerms
  rules : RuleSet

namespace Scenario

def parseFailure (error : ReadError) : Outcome :=
  .fail "response body is valid JSON" (some ("parse error: " ++ error.message))

def outcomes (scenario : Scenario) (response : Response) (requests : Nat)
    (document : Except ReadError Value) : List Outcome :=
  scenario.exchange.outcomes response requests ++
    match document with
    | .ok document => (scenario.rules.check document).outcomes
    | .error error => [parseFailure error]

end Scenario

namespace Session

variable {σ : Type}

/-- The reports of scenarios up to the one that ends the session, why it ended, and the state of
the fetcher after it. -/
def runAll (fetcher : Fetcher σ) : List Scenario → σ → List ScenarioReport × Option Abort × σ
  | [], state => ([], none, state)
  | scenario :: rest, state =>
    let target := fetcher.target scenario.query state
    match fetcher.fetch scenario.query state with
    | (.error error, after) => ([], some ⟨.transport, target, error.message⟩, after)
    | (.ok response, after) =>
      -- The requests of earlier scenarios are in the state already.
      let requests := fetcher.issued after - fetcher.issued state
      let document := response.document
      let report : ScenarioReport :=
        ⟨scenario.name, target, .ofOutcomes (scenario.outcomes response requests document)⟩
      match document with
      | .error error => ([report], some ⟨.parse, target, error.message⟩, after)
      | .ok _ =>
        let (reports, abort, final) := runAll fetcher rest after
        (report :: reports, abort, final)

def run (contract : String) (fetcher : Fetcher σ) (scenarios : List Scenario) (state : σ) :
    SessionReport × σ :=
  let (reports, abort, final) := runAll fetcher scenarios state
  (⟨contract, reports, abort⟩, final)

end Session

end OrdersContract
