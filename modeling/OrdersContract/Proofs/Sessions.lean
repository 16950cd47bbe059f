import OrdersContract.Session.Basic

set_option autoImplicit false

namespace OrdersContract

open Json

variable {σ : Type}

-- Keeps the queries asked, in order, beside the state.
def Fetcher.logged (fetcher : Fetcher σ) : Fetcher (σ × List Query) where
  target query state := fetcher.target query state.1
  fetch query state :=
    let (answer, after) := fetcher.fetch query state.1
    (answer, after, state.2 ++ [query])
  issued state := fetcher.issued state.1

namespace Session

def stateBefore (fetcher : Fetcher σ) (scenarios : List Scenario) (state : σ) (k : Nat) : σ :=
  (scenarios.take k).foldl (fun state scenario => (fetcher.fetch scenario.query state).2) state

/-- The answer to scenario `k` of a fetcher that was asked for every scenario before it. -/
structure Answered (fetcher : Fetcher σ) (scenarios : List Scenario) (state : σ) (k : Nat)
    (scenario : Scenario) (answer : Except TransportError Response) : Prop where
  listed : scenarios[k]? = some scenario
  fetched : (fetcher.fetch scenario.query (stateBefore fetcher scenarios state k)).1 = answer

def Reached (fetcher : Fetcher σ) (scenarios : List Scenario) (state : σ) (k : Nat) : Prop :=
  ∀ i < k, ∃ scenario response document,
    Answered fetcher scenarios state i scenario (.ok response) ∧ response.document = .ok document

structure Unreachable (fetcher : Fetcher σ) (scenarios : List Scenario) (state : σ) (k : Nat)
    (scenario : Scenario) (error : TransportError) : Prop where
  reached : Reached fetcher scenarios state k
  answered : Answered fetcher scenarios state k scenario (.error error)

structure Unreadable (fetcher : Fetcher σ) (scenarios : List Scenario) (state : σ) (k : Nat)
    (scenario : Scenario) (response : Response) (error : ReadError) : Prop where
  reached : Reached fetcher scenarios state k
  answered : Answered fetcher scenarios state k scenario (.ok response)
  broken : response.document = .error error

def requestsAt (fetcher : Fetcher σ) (scenarios : List Scenario) (state : σ) (k : Nat) : Nat :=
  fetcher.issued (stateBefore fetcher scenarios state (k + 1)) -
    fetcher.issued (stateBefore fetcher scenarios state k)

def reportAt (fetcher : Fetcher σ) (scenarios : List Scenario) (state : σ) (k : Nat)
    (scenario : Scenario) (response : Response) : ScenarioReport :=
  ⟨scenario.name, fetcher.target scenario.query (stateBefore fetcher scenarios state k),
    .ofOutcomes (scenario.outcomes response (requestsAt fetcher scenarios state k)
      response.document)⟩

structure ReportsBefore (fetcher : Fetcher σ) (scenarios : List Scenario) (state : σ) (k : Nat)
    (reports : List ScenarioReport) : Prop where
  length : reports.length = k
  each : ∀ i scenario response, i < k → Answered fetcher scenarios state i scenario (.ok response) →
    reports[i]? = some (reportAt fetcher scenarios state i scenario response)

variable {fetcher : Fetcher σ} {scenarios rest : List Scenario} {state : σ} {k : Nat}
  {scenario : Scenario} {response : Response} {report : ScenarioReport}

theorem answer_cases (answer : Except TransportError Response) :
    (∃ error, answer = .error error) ∨
      (∃ response error, answer = .ok response ∧ response.document = .error error) ∨
      ∃ response document, answer = .ok response ∧ response.document = .ok document := by
  cases answer with
  | error error => exact .inl ⟨error, rfl⟩
  | ok response =>
    cases read : response.document with
    | error error => exact .inr (.inl ⟨response, error, rfl, read⟩)
    | ok document => exact .inr (.inr ⟨response, document, rfl, read⟩)

theorem runAll_cons_of_error {error : TransportError}
    (failed : (fetcher.fetch scenario.query state).1 = .error error) :
    runAll fetcher (scenario :: rest) state =
      ([], some ⟨.transport, fetcher.target scenario.query state, error.message⟩,
        (fetcher.fetch scenario.query state).2) := by
  rw [runAll]
  split
  next other after fetched =>
    obtain rfl : other = error := by simpa [fetched] using failed
    rw [fetched]
  next other after fetched => simp [fetched] at failed

theorem runAll_cons_of_broken {error : ReadError}
    (answered : (fetcher.fetch scenario.query state).1 = .ok response)
    (broken : response.document = .error error) :
    runAll fetcher (scenario :: rest) state =
      ([⟨scenario.name, fetcher.target scenario.query state, .ofOutcomes (scenario.outcomes response
          (fetcher.issued (fetcher.fetch scenario.query state).2 - fetcher.issued state)
          response.document)⟩],
        some ⟨.parse, fetcher.target scenario.query state, error.message⟩,
        (fetcher.fetch scenario.query state).2) := by
  rw [runAll]
  split
  next other after fetched => simp [fetched] at answered
  next other after fetched =>
    obtain rfl : other = response := by simpa [fetched] using answered
    simp only [fetched, broken]

theorem runAll_cons_of_read {document : Value}
    (answered : (fetcher.fetch scenario.query state).1 = .ok response)
    (read : response.document = .ok document) :
    let after := (fetcher.fetch scenario.query state).2
    runAll fetcher (scenario :: rest) state =
      (⟨scenario.name, fetcher.target scenario.query state, .ofOutcomes (scenario.outcomes response
          (fetcher.issued after - fetcher.issued state) response.document)⟩ ::
        (runAll fetcher rest after).1, (runAll fetcher rest after).2) := by
  intro after
  rw [runAll]
  split
  next other _ fetched => simp [fetched] at answered
  next other final fetched =>
    obtain rfl : other = response := by simpa [fetched] using answered
    obtain rfl : final = after := by simp [after, fetched]
    simp only [read]

theorem stateBefore_succ (listed : scenarios[k]? = some scenario) :
    stateBefore fetcher scenarios state (k + 1) =
      (fetcher.fetch scenario.query (stateBefore fetcher scenarios state k)).2 := by
  simp [stateBefore, List.take_add_one, listed]

@[simp]
theorem logged_fetch_after (query : Query) (state : σ) (log : List Query) :
    (fetcher.logged.fetch query (state, log)).2 =
      ((fetcher.fetch query state).2, log ++ [query]) := rfl

theorem drop_of_listed (listed : scenarios[k]? = some scenario) :
    scenarios.drop k = scenario :: scenarios.drop (k + 1) := by
  obtain ⟨within, here⟩ := List.getElem?_eq_some_iff.mp listed
  rw [List.drop_eq_getElem_cons within, here]

theorem foldl_logged (steps : List Scenario) (state : σ) (log : List Query) :
    steps.foldl (fun state scenario => (fetcher.logged.fetch scenario.query state).2) (state, log) =
      (steps.foldl (fun state scenario => (fetcher.fetch scenario.query state).2) state,
        log ++ steps.map Scenario.query) := by
  induction steps generalizing state log with
  | nil => simp
  | cons scenario rest ih => simp [ih]

theorem stateBefore_logged (state : σ) (k : Nat) :
    stateBefore fetcher.logged scenarios (state, []) k =
      (stateBefore fetcher scenarios state k, (scenarios.take k).map Scenario.query) := by
  simp [stateBefore, foldl_logged]

theorem Answered.logged {answer : Except TransportError Response}
    (answered : Answered fetcher scenarios state k scenario answer) :
    Answered fetcher.logged scenarios (state, []) k scenario answer := by
  refine ⟨answered.listed, ?_⟩
  rw [stateBefore_logged]
  exact answered.fetched

theorem Reached.logged (reached : Reached fetcher scenarios state k) :
    Reached fetcher.logged scenarios (state, []) k := by
  intro i before
  obtain ⟨scenario, response, document, answered, read⟩ := reached i before
  exact ⟨scenario, response, document, answered.logged, read⟩

theorem Unreachable.logged {error : TransportError}
    (stopped : Unreachable fetcher scenarios state k scenario error) :
    Unreachable fetcher.logged scenarios (state, []) k scenario error :=
  ⟨stopped.reached.logged, stopped.answered.logged⟩

theorem Unreadable.logged {error : ReadError}
    (stopped : Unreadable fetcher scenarios state k scenario response error) :
    Unreadable fetcher.logged scenarios (state, []) k scenario response error :=
  ⟨stopped.reached.logged, stopped.answered.logged, stopped.broken⟩

theorem Reached.succ {document : Value} (reached : Reached fetcher scenarios state k)
    (answered : Answered fetcher scenarios state k scenario (.ok response))
    (read : response.document = .ok document) : Reached fetcher scenarios state (k + 1) := by
  intro i before
  rcases Nat.lt_succ_iff_lt_or_eq.mp before with before | rfl
  · exact reached i before
  · exact ⟨scenario, response, document, answered, read⟩

theorem reached_or_stops (fetcher : Fetcher σ) (scenarios : List Scenario) (state : σ) (k : Nat)
    (within : k ≤ scenarios.length) :
    Reached fetcher scenarios state k ∨
      (∃ i scenario error, Unreachable fetcher scenarios state i scenario error) ∨
      ∃ i scenario response error, Unreadable fetcher scenarios state i scenario response error := by
  induction k with
  | zero => exact .inl fun i before => absurd before (Nat.not_lt_zero i)
  | succ k ih =>
    rcases ih (by omega) with reached | stopped
    · have listed : scenarios[k]? = some scenarios[k] := List.getElem?_eq_getElem _
      have answers (answer : Except TransportError Response)
          (fetched : (fetcher.fetch scenarios[k].query
            (stateBefore fetcher scenarios state k)).1 = answer) :
          Answered fetcher scenarios state k scenarios[k] answer := ⟨listed, fetched⟩
      rcases answer_cases (fetcher.fetch scenarios[k].query
          (stateBefore fetcher scenarios state k)).1 with
        ⟨error, failed⟩ | ⟨response, error, answered, broken⟩ | ⟨response, document, answered, read⟩
      · exact .inr (.inl ⟨k, _, error, reached, answers _ failed⟩)
      · exact .inr (.inr ⟨k, _, response, error, reached, answers _ answered, broken⟩)
      · exact .inl (reached.succ (answers _ answered) read)
    · exact .inr stopped

theorem ReportsBefore.succ {reports : List ScenarioReport}
    (before : ReportsBefore fetcher scenarios state k reports)
    (answered : Answered fetcher scenarios state k scenario (.ok response)) :
    ReportsBefore fetcher scenarios state (k + 1)
      (reports ++ [reportAt fetcher scenarios state k scenario response]) := by
  refine ⟨by simp [before.length], ?_⟩
  intro i other reply within otherAnswered
  rcases Nat.lt_succ_iff_lt_or_eq.mp within with earlier | rfl
  · rw [List.getElem?_append_left (by rw [before.length]; exact earlier)]
    exact before.each i other reply earlier otherAnswered
  · obtain rfl : other = scenario :=
      Option.some.inj (otherAnswered.listed.symm.trans answered.listed)
    obtain rfl : reply = response :=
      Except.ok.inj (otherAnswered.fetched.symm.trans answered.fetched)
    simp [before.length]

-- The run goes on at every scenario it reaches as if it began there.
theorem runAll_of_reached (reached : Reached fetcher scenarios state k) :
    ∃ reports, ReportsBefore fetcher scenarios state k reports ∧
      runAll fetcher scenarios state =
        let later := runAll fetcher (scenarios.drop k) (stateBefore fetcher scenarios state k)
        (reports ++ later.1, later.2) := by
  induction k with
  | zero =>
    refine ⟨[], ⟨rfl, ?_⟩, by simp [stateBefore]⟩
    exact fun i _ _ before => absurd before (Nat.not_lt_zero i)
  | succ k ih =>
    obtain ⟨reports, before, run⟩ := ih fun i earlier => reached i (by omega)
    obtain ⟨scenario, response, document, answered, read⟩ := reached k (Nat.lt_succ_self k)
    refine ⟨_, before.succ answered, ?_⟩
    rw [run, drop_of_listed answered.listed]
    dsimp only
    rw [runAll_cons_of_read answered.fetched read]
    simp [reportAt, requestsAt, stateBefore_succ answered.listed]

theorem runAll_of_finished (reached : Reached fetcher scenarios state scenarios.length) :
    ∃ reports, ReportsBefore fetcher scenarios state scenarios.length reports ∧
      runAll fetcher scenarios state =
        (reports, none, stateBefore fetcher scenarios state scenarios.length) := by
  obtain ⟨reports, before, run⟩ := runAll_of_reached reached
  exact ⟨reports, before, by simpa [runAll] using run⟩

theorem runAll_of_unreachable {error : TransportError}
    (stopped : Unreachable fetcher scenarios state k scenario error) :
    ∃ reports, ReportsBefore fetcher scenarios state k reports ∧
      runAll fetcher scenarios state =
        (reports, some ⟨.transport, fetcher.target scenario.query
          (stateBefore fetcher scenarios state k), error.message⟩,
          stateBefore fetcher scenarios state (k + 1)) := by
  obtain ⟨reached, answered⟩ := stopped
  obtain ⟨reports, before, run⟩ := runAll_of_reached reached
  rw [drop_of_listed answered.listed, runAll_cons_of_error answered.fetched] at run
  exact ⟨reports, before, by simpa [stateBefore_succ answered.listed] using run⟩

theorem runAll_of_unreadable {error : ReadError}
    (stopped : Unreadable fetcher scenarios state k scenario response error) :
    ∃ reports, ReportsBefore fetcher scenarios state (k + 1) reports ∧
      runAll fetcher scenarios state =
        (reports, some ⟨.parse, fetcher.target scenario.query
          (stateBefore fetcher scenarios state k), error.message⟩,
          stateBefore fetcher scenarios state (k + 1)) := by
  obtain ⟨reached, answered, broken⟩ := stopped
  obtain ⟨reports, before, run⟩ := runAll_of_reached reached
  rw [drop_of_listed answered.listed, runAll_cons_of_broken answered.fetched broken] at run
  refine ⟨_, before.succ answered, ?_⟩
  simpa [reportAt, requestsAt, stateBefore_succ answered.listed] using run

-- A scenario that was reached and answered is reported, also if its body is not JSON.
theorem runAll_reports_at (reached : Reached fetcher scenarios state k)
    (answered : Answered fetcher scenarios state k scenario (.ok response)) :
    (runAll fetcher scenarios state).1[k]? =
      some (reportAt fetcher scenarios state k scenario response) := by
  cases read : response.document with
  | ok document =>
    obtain ⟨reports, before, ran⟩ := runAll_of_reached (reached.succ answered read)
    have early : k < reports.length := by
      rw [before.length]
      exact Nat.lt_succ_self k
    rw [ran, List.getElem?_append_left early]
    exact before.each k scenario response (Nat.lt_succ_self k) answered
  | error error =>
    obtain ⟨reports, before, ran⟩ := runAll_of_unreadable ⟨reached, answered, read⟩
    rw [ran]
    exact before.each k scenario response (Nat.lt_succ_self k) answered

theorem Reached.answered_before {j : Nat} (reached : Reached fetcher scenarios state j)
    (early : k < j) : ∃ scenario response, Reached fetcher scenarios state k ∧
      Answered fetcher scenarios state k scenario (.ok response) := by
  obtain ⟨scenario, response, _, answered, _⟩ := reached k early
  exact ⟨scenario, response, fun i before => reached i (Nat.lt_trans before early), answered⟩

theorem answered_of_reported
    (reported : (runAll fetcher scenarios state).1[k]? = some report) :
    ∃ scenario response, Reached fetcher scenarios state k ∧
      Answered fetcher scenarios state k scenario (.ok response) := by
  obtain ⟨within, _⟩ := List.getElem?_eq_some_iff.mp reported
  rcases reached_or_stops fetcher scenarios state _ (Nat.le_refl _) with
    reached | ⟨j, _, _, stopped⟩ | ⟨j, scenario, response, _, stopped⟩
  · obtain ⟨reports, before, ran⟩ := runAll_of_finished reached
    rw [ran, before.length] at within
    exact reached.answered_before within
  · obtain ⟨reports, before, ran⟩ := runAll_of_unreachable stopped
    rw [ran, before.length] at within
    exact stopped.reached.answered_before within
  · obtain ⟨reports, before, ran⟩ := runAll_of_unreadable stopped
    rw [ran, before.length] at within
    rcases Nat.lt_succ_iff_lt_or_eq.mp within with early | rfl
    · exact stopped.reached.answered_before early
    · exact ⟨scenario, response, stopped.reached, stopped.answered⟩

theorem runAll_reported (reported : (runAll fetcher scenarios state).1[k]? = some report) :
    ∃ scenario response, Reached fetcher scenarios state k ∧
      Answered fetcher scenarios state k scenario (.ok response) ∧
        report = reportAt fetcher scenarios state k scenario response := by
  obtain ⟨scenario, response, reached, answered⟩ := answered_of_reported reported
  rw [runAll_reports_at reached answered] at reported
  exact ⟨scenario, response, reached, answered, (Option.some.inj reported).symm⟩

theorem runAll_reports_made (fetcher : Fetcher σ) (scenarios : List Scenario) (state : σ)
    (report : ScenarioReport) (reported : report ∈ (runAll fetcher scenarios state).1) :
    ∃ k scenario response, Reached fetcher scenarios state k ∧
      Answered fetcher scenarios state k scenario (.ok response) ∧
        report = reportAt fetcher scenarios state k scenario response := by
  obtain ⟨k, here⟩ := List.mem_iff_getElem?.mp reported
  exact ⟨k, runAll_reported here⟩

theorem runAll_logged (fetcher : Fetcher σ) (scenarios : List Scenario) (state : σ)
    (log : List Query) :
    let logged := runAll fetcher.logged scenarios (state, log)
    let plain := runAll fetcher scenarios state
    logged.1 = plain.1 ∧ logged.2.1 = plain.2.1 ∧ logged.2.2.1 = plain.2.2 := by
  induction scenarios generalizing state log with
  | nil => exact ⟨rfl, rfl, rfl⟩
  | cons scenario rest ih =>
    -- Beside its log, a fetcher that keeps one answers as the fetcher does.
    have same : (fetcher.logged.fetch scenario.query (state, log)).1 =
      (fetcher.fetch scenario.query state).1 := rfl
    rcases answer_cases (fetcher.fetch scenario.query state).1 with
      ⟨error, failed⟩ | ⟨response, error, answered, broken⟩ | ⟨response, document, answered, read⟩
    · rw [runAll_cons_of_error failed, runAll_cons_of_error (same.trans failed)]
      exact ⟨rfl, rfl, rfl⟩
    · rw [runAll_cons_of_broken answered broken,
        runAll_cons_of_broken (same.trans answered) broken]
      exact ⟨rfl, rfl, rfl⟩
    · rw [runAll_cons_of_read answered read, runAll_cons_of_read (same.trans answered) read]
      obtain ⟨reports, abort, final⟩ := ih (fetcher.fetch scenario.query state).2
        (log ++ [scenario.query])
      exact ⟨congrArg (_ :: ·) reports, abort, final⟩

theorem run_stops_at_first_failure (contract : String) (fetcher : Fetcher σ)
    (scenarios : List Scenario) (state : σ) :
    let session := (run contract fetcher scenarios state).1
    let logged := run contract fetcher.logged scenarios (state, [])
    let asked := logged.2.2
    logged.1 = session ∧
      (∀ (i : Nat) (report : ScenarioReport), session.scenarios[i]? = some report →
        ∃ scenario : Scenario, scenarios[i]? = some scenario ∧ report.name = scenario.name ∧
          report.target = fetcher.target scenario.query (stateBefore fetcher scenarios state i)) ∧
      (∀ k scenario response document, Reached fetcher scenarios state k →
        Answered fetcher scenarios state k scenario (.ok response) →
        response.document = .ok document →
        (session.scenarios[k]?.map ScenarioReport.report) = some (.ofOutcomes
          (scenario.exchange.outcomes response (requestsAt fetcher scenarios state k) ++
            (scenario.rules.check document).outcomes))) ∧
      (Reached fetcher scenarios state scenarios.length →
        session.scenarios.length = scenarios.length ∧ session.abort = none ∧
          asked = scenarios.map Scenario.query) ∧
      (∀ k scenario error, Unreachable fetcher scenarios state k scenario error →
        session.scenarios.length = k ∧
          session.abort = some ⟨.transport, fetcher.target scenario.query
            (stateBefore fetcher scenarios state k), error.message⟩ ∧
          asked = (scenarios.take (k + 1)).map Scenario.query) ∧
      (∀ k scenario response error,
        Unreadable fetcher scenarios state k scenario response error →
        session.scenarios.length = k + 1 ∧
          (session.scenarios[k]?.map ScenarioReport.report) = some (.ofOutcomes
            (scenario.exchange.outcomes response (requestsAt fetcher scenarios state k) ++
              [⟨"response body is valid JSON", false, some ("parse error: " ++ error.message)⟩])) ∧
          session.abort = some ⟨.parse, fetcher.target scenario.query
            (stateBefore fetcher scenarios state k), error.message⟩ ∧
          asked = (scenarios.take (k + 1)).map Scenario.query) ∧
      (Reached fetcher scenarios state scenarios.length ∨
        (∃ k scenario error, Unreachable fetcher scenarios state k scenario error) ∨
        ∃ k scenario response error,
          Unreadable fetcher scenarios state k scenario response error) := by
  intro session logged asked
  refine ⟨?same, ?named, ?read, ?finished, ?unreachable,
    ?unreadable, reached_or_stops fetcher scenarios state _ (Nat.le_refl _)⟩
  case same =>
    obtain ⟨reports, abort, _⟩ := runAll_logged fetcher scenarios state []
    simp [logged, session, run, reports, abort]
  case named =>
    intro i report reported
    obtain ⟨scenario, response, _, answered, rfl⟩ := runAll_reported reported
    exact ⟨scenario, answered.listed, rfl, rfl⟩
  case read =>
    intro k scenario response document reached answered read
    simp only [session, run, runAll_reports_at reached answered, Option.map_some, reportAt,
      Scenario.outcomes, read]
  case finished =>
    intro reached
    obtain ⟨reports, before, ran⟩ := runAll_of_finished reached
    obtain ⟨_, _, kept⟩ := runAll_of_finished reached.logged
    refine ⟨by simp [session, run, ran, before.length], by simp [session, run, ran], ?_⟩
    simp [asked, logged, run, kept, stateBefore_logged]
  case unreachable =>
    intro k scenario error stopped
    obtain ⟨reports, before, ran⟩ := runAll_of_unreachable stopped
    obtain ⟨_, _, kept⟩ := runAll_of_unreachable stopped.logged
    refine ⟨by simp [session, run, ran, before.length], by simp [session, run, ran], ?_⟩
    simp only [asked, logged, run, kept, stateBefore_logged]
  case unreadable =>
    intro k scenario response error stopped
    obtain ⟨reports, before, ran⟩ := runAll_of_unreadable stopped
    obtain ⟨_, _, kept⟩ := runAll_of_unreadable stopped.logged
    refine ⟨by simp [session, run, ran, before.length], ?_, by simp [session, run, ran], ?_⟩
    · simp only [session, run, runAll_reports_at stopped.reached stopped.answered, Option.map_some,
        reportAt, Scenario.outcomes, stopped.broken]
      rfl
    · simp only [asked, logged, run, kept, stateBefore_logged]

end Session

end OrdersContract
