import Mathlib.Data.List.Basic
import OrdersContract.Proofs.Sessions

set_option autoImplicit false

namespace OrdersContract

open Json Text

variable {σ : Type}

def Fetcher.CountsUp (fetcher : Fetcher σ) : Prop :=
  ∀ query state, fetcher.issued state ≤ fetcher.issued (fetcher.fetch query state).2

/-- A scenario without its query, and what came of it. -/
structure Exchange where
  name : String
  terms : ExchangeTerms
  rules : RuleSet
  target : String
  response : Response
  requests : Nat

namespace Exchange

def outcomes (exchange : Exchange) : List Outcome :=
  exchange.terms.outcomes exchange.response exchange.requests ++
    match exchange.response.document with
    | .ok document => (exchange.rules.check document).outcomes
    | .error error => [Scenario.parseFailure error]

def report (exchange : Exchange) : ScenarioReport :=
  ⟨exchange.name, exchange.target, .ofOutcomes exchange.outcomes⟩

end Exchange

def Scenario.toExchange (scenario : Scenario) (target : String) (response : Response)
    (requests : Nat) : Exchange :=
  ⟨scenario.name, scenario.exchange, scenario.rules, target, response, requests⟩

def ExchangeTerms.verdicts (terms : ExchangeTerms) (response : Response) (requests : Nat) :
    List (String × Bool) :=
  [("HTTP status is " ++ decimalText terms.status, response.status == terms.status)] ++
    (if terms.jsonContent then
      [("Content-Type is application/json",
        containsText "application/json".toList (response.contentType.getD "").toList)] else []) ++
    (if terms.oneRequest then
      [("data retrieved in exactly 1 HTTP request", requests == 1)] else []) ++
    (terms.payloadLimit.map fun limit =>
      ("payload size is under " ++ decimalText limit ++ " bytes",
        decide (response.body.length < limit))).toList

theorem Outcome.check_verdict (label : String) (passed : Bool) (detail : String) :
    ((check label passed detail).label, (check label passed detail).passed) = (label, passed) := by
  cases passed <;> rfl

theorem ExchangeTerms.map_verdict_outcomes (terms : ExchangeTerms) (response : Response)
    (requests : Nat) :
    (terms.outcomes response requests).map (fun outcome => (outcome.label, outcome.passed)) =
      terms.verdicts response requests := by
  have limited (limit : Option Nat) :
      (limit.map (payloadOutcome · response)).toList.map
          (fun outcome => (outcome.label, outcome.passed)) =
        (limit.map fun limit => ("payload size is under " ++ decimalText limit ++ " bytes",
          decide (response.body.length < limit))).toList := by
    cases limit with
    | none => rfl
    | some limit => exact congrArg ([·]) (Outcome.check_verdict ..)
  simp only [outcomes, verdicts, List.map_cons, List.map_append, limited, statusOutcome,
    contentOutcome, requestsOutcome, Outcome.check_verdict, apply_ite (List.map _), List.map_nil,
    List.cons_append, List.nil_append, List.append_assoc]

namespace Session

structure Exchanged (fetcher : Fetcher σ) (scenarios : List Scenario) (state : σ) (k : Nat)
    (exchange : Exchange) : Prop where
  reached : Reached fetcher scenarios state k
  answered : ∃ scenario,
    Answered fetcher scenarios state k scenario (.ok exchange.response) ∧
      exchange = scenario.toExchange (fetcher.target scenario.query
        (stateBefore fetcher scenarios state k)) exchange.response exchange.requests
  counted : fetcher.issued (stateBefore fetcher scenarios state k) + exchange.requests =
    fetcher.issued (stateBefore fetcher scenarios state (k + 1))

variable {fetcher : Fetcher σ} {scenarios : List Scenario} {state : σ} {k : Nat}
  {scenario : Scenario} {response : Response}

theorem issued_stateBefore_le (counting : fetcher.CountsUp) (k : Nat) :
    fetcher.issued (stateBefore fetcher scenarios state k) ≤
      fetcher.issued (stateBefore fetcher scenarios state (k + 1)) := by
  cases listed : scenarios[k]? with
  | none =>
    have finished := List.getElem?_eq_none_iff.mp listed
    have same : stateBefore fetcher scenarios state k =
        stateBefore fetcher scenarios state (k + 1) := by
      rw [stateBefore, stateBefore, List.take_of_length_le finished,
        List.take_of_length_le (Nat.le_succ_of_le finished)]
    exact Nat.le_of_eq (congrArg fetcher.issued same)
  | some scenario =>
    rw [stateBefore_succ listed]
    exact counting scenario.query _

theorem requestsAt_counted (counting : fetcher.CountsUp) (k : Nat) :
    fetcher.issued (stateBefore fetcher scenarios state k) +
        requestsAt fetcher scenarios state k =
      fetcher.issued (stateBefore fetcher scenarios state (k + 1)) :=
  Nat.add_sub_cancel' (issued_stateBefore_le counting k)

theorem Exchanged.requests_eq {exchange : Exchange}
    (held : Exchanged fetcher scenarios state k exchange) :
    exchange.requests = requestsAt fetcher scenarios state k := by
  have counted := held.counted
  rw [requestsAt]
  omega

theorem reportAt_eq (fetcher : Fetcher σ) (scenarios : List Scenario) (state : σ) (k : Nat)
    (scenario : Scenario) (response : Response) :
    reportAt fetcher scenarios state k scenario response =
      (scenario.toExchange (fetcher.target scenario.query (stateBefore fetcher scenarios state k))
        response (requestsAt fetcher scenarios state k)).report := rfl

theorem Exchanged.reported {exchange : Exchange}
    (held : Exchanged fetcher scenarios state k exchange) :
    (runAll fetcher scenarios state).1[k]? = some exchange.report := by
  have requests := held.requests_eq
  obtain ⟨reached, ⟨scenario, answered, made⟩, _⟩ := held
  rw [runAll_reports_at reached answered, reportAt_eq, made, requests]
  rfl

theorem runAll_reported_iff (counting : fetcher.CountsUp) (report : ScenarioReport) :
    (runAll fetcher scenarios state).1[k]? = some report ↔
      ∃ exchange, Exchanged fetcher scenarios state k exchange ∧ exchange.report = report := by
  constructor
  · intro reported
    obtain ⟨scenario, response, reached, answered, rfl⟩ := runAll_reported reported
    refine ⟨scenario.toExchange (fetcher.target scenario.query
      (stateBefore fetcher scenarios state k)) response (requestsAt fetcher scenarios state k), ?_,
      rfl⟩
    exact ⟨reached, ⟨scenario, answered, rfl⟩, requestsAt_counted counting k⟩
  · rintro ⟨exchange, held, rfl⟩
    exact held.reported

/-- Where the count of requests never goes back, the report of a scenario is that of its own
exchange: two sessions tell the same wherever they have the same exchange. -/
theorem run_reports_of_exchanges (contract : String) (fetcher : Fetcher σ)
    (scenarios : List Scenario) (state : σ) (counting : fetcher.CountsUp) :
    let session := (run contract fetcher scenarios state).1
    (∀ k, fetcher.issued (stateBefore fetcher scenarios state k) ≤
      fetcher.issued (stateBefore fetcher scenarios state (k + 1))) ∧
      (∀ k report, session.scenarios[k]? = some report ↔
        ∃ exchange, Exchanged fetcher scenarios state k exchange ∧ exchange.report = report) ∧
      (∀ (τ : Type) (otherContract : String) (other : Fetcher τ) (others : List Scenario)
        (otherState : τ) (k l : Nat) (exchange : Exchange),
        Exchanged fetcher scenarios state k exchange →
        Exchanged other others otherState l exchange →
        session.scenarios[k]? =
          (run otherContract other others otherState).1.scenarios[l]?) ∧
      ∀ exchange : Exchange, ∃ own body,
        exchange.report.report = .ofOutcomes (own ++ body) ∧
          own.map (fun outcome => (outcome.label, outcome.passed)) =
            exchange.terms.verdicts exchange.response exchange.requests ∧
          ∀ document, exchange.response.document = .ok document →
            body = (exchange.rules.check document).outcomes := by
  intro session
  refine ⟨issued_stateBefore_le counting, ?reported, ?apart, ?outcomes⟩
  case reported => exact fun k report => runAll_reported_iff counting report
  case apart =>
    intro τ otherContract other others otherState k l exchange held otherHeld
    exact held.reported.trans otherHeld.reported.symm
  case outcomes =>
    intro exchange
    refine ⟨_, _, rfl, exchange.terms.map_verdict_outcomes exchange.response exchange.requests, ?_⟩
    intro document read
    simp only [read]

-- The first request is redirected, which does not count against the second one.
theorem redirected_then_direct :
    let fetcher : Fetcher (Nat × Nat) :=
      ⟨fun _ _ => "http://localhost/",
        fun _ state => (.ok ⟨200, none, [0x7b, 0x7d]⟩, state.1 + 1 + state.2, 0), Prod.fst⟩
    let scenarios : List Scenario :=
      List.replicate 2 ⟨"list", [], { oneRequest := true }, "all", .mk "root" .current none [] []⟩
    let session := (run "orders" fetcher scenarios (7, 1)).1
    fetcher.CountsUp ∧ ∃ first second : Exchange,
      Exchanged fetcher scenarios (7, 1) 0 first ∧ Exchanged fetcher scenarios (7, 1) 1 second ∧
        first.requests = 2 ∧ second.requests = 1 ∧
        session.scenarios = [first.report, second.report] ∧
        session.scenarios.map (·.report.failCount) = [1, 0] := by
  intro fetcher scenarios session
  have counting : fetcher.CountsUp := by
    intro query state
    change state.1 ≤ state.1 + 1 + state.2
    omega
  obtain ⟨_, reported, _, _⟩ := run_reports_of_exchanges "orders" fetcher scenarios (7, 1) counting
  obtain ⟨_, _, both⟩ := List.length_eq_two.mp (show session.scenarios.length = 2 by decide +kernel)
  obtain ⟨first, held, rfl⟩ := (reported 0 _).mp (congrArg (·[0]?) both)
  obtain ⟨second, alsoHeld, rfl⟩ := (reported 1 _).mp (congrArg (·[1]?) both)
  exact ⟨counting, first, second, held, alsoHeld, held.requests_eq, alsoHeld.requests_eq, both,
    by decide +kernel⟩

end Session

end OrdersContract
