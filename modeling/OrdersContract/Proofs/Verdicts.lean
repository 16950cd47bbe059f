import Mathlib.Algebra.BigOperators.Group.List.Basic
import Mathlib.Algebra.Ring.Nat
import OrdersContract.Proofs.LastLines
import OrdersContract.Proofs.Sessions

set_option autoImplicit false

namespace OrdersContract

open Json Text

namespace SessionReport

variable {session : SessionReport}

def outcomes (session : SessionReport) : List Outcome :=
  session.scenarios.flatMap (·.report.outcomes)

def Counted (session : SessionReport) : Prop :=
  ∀ scenario ∈ session.scenarios, scenario.report = .ofOutcomes scenario.report.outcomes

theorem passCount_eq_sum (session : SessionReport) :
    session.passCount = (session.scenarios.map (·.report.passCount)).sum := by
  rw [passCount, List.sum, List.foldr_map]

theorem failCount_eq_sum (session : SessionReport) :
    session.failCount = (session.scenarios.map (·.report.failCount)).sum := by
  rw [failCount, List.sum, List.foldr_map]

theorem passCount_eq_countP (session : SessionReport) (counted : session.Counted) :
    session.passCount = session.outcomes.countP Outcome.passed := by
  rw [passCount_eq_sum, outcomes, List.countP_flatMap]
  refine congrArg List.sum (List.map_congr_left fun scenario member => ?_)
  rw [counted scenario member]
  rfl

theorem failCount_eq_countP (session : SessionReport) (counted : session.Counted) :
    session.failCount = session.outcomes.countP (!·.passed) := by
  rw [failCount_eq_sum, outcomes, List.countP_flatMap]
  refine congrArg List.sum (List.map_congr_left fun scenario member => ?_)
  rw [counted scenario member, Report.ofOutcomes_failCount]
  rfl

theorem counts_add (session : SessionReport) (counted : session.Counted) :
    session.passCount + session.failCount = session.outcomes.length := by
  rw [session.passCount_eq_countP counted, session.failCount_eq_countP counted,
    List.length_eq_countP_add_countP Outcome.passed]
  simp

theorem failCount_eq_zero_iff (session : SessionReport) (counted : session.Counted) :
    session.failCount = 0 ↔
      ∀ scenario ∈ session.scenarios, ∀ outcome ∈ scenario.report.outcomes,
        outcome.passed = true := by
  rw [session.failCount_eq_countP counted, List.countP_eq_zero, outcomes, List.forall_mem_flatMap]
  simp

theorem passed_iff (session : SessionReport) :
    session.passed = true ↔ session.abort = none ∧ session.failCount = 0 := by
  simp [passed]

theorem code_of_finished (finished : session.abort = none) :
    session.exitStatus.code = if session.failCount = 0 then 0 else 1 := by
  by_cases clean : session.failCount = 0 <;> simp [exitStatus, finished, clean, ExitStatus.code]

theorem code_of_aborted {abort : Abort} (stopped : session.abort = some abort) :
    session.exitStatus.code = if abort.kind = .transport then 2 else 1 := by
  cases kind : abort.kind <;> simp [exitStatus, stopped, kind, ExitStatus.code]

theorem code_eq_zero_iff (session : SessionReport) :
    session.exitStatus.code = 0 ↔ session.abort = none ∧ session.failCount = 0 := by
  cases stopped : session.abort with
  | none => simp [code_of_finished stopped]
  | some abort => cases kind : abort.kind <;> simp [code_of_aborted stopped, kind]

theorem code_eq_two_iff (session : SessionReport) :
    session.exitStatus.code = 2 ↔ ∃ abort, session.abort = some abort ∧ abort.kind = .transport := by
  cases stopped : session.abort with
  | none => by_cases clean : session.failCount = 0 <;> simp [code_of_finished stopped, clean]
  | some abort => cases kind : abort.kind <;> simp [code_of_aborted stopped, kind]

end SessionReport

namespace Session

variable {σ : Type} {fetcher : Fetcher σ} {scenarios : List Scenario} {state : σ}

theorem runAll_reports_counted (fetcher : Fetcher σ) (scenarios : List Scenario) (state : σ) :
    ∀ report ∈ (runAll fetcher scenarios state).1,
      report.report = .ofOutcomes report.report.outcomes := by
  intro report reported
  obtain ⟨k, scenario, response, _, _, rfl⟩ :=
    runAll_reports_made fetcher scenarios state report reported
  rfl

theorem run_counted (contract : String) (fetcher : Fetcher σ) (scenarios : List Scenario)
    (state : σ) : (run contract fetcher scenarios state).1.Counted :=
  runAll_reports_counted fetcher scenarios state

theorem run_ends (contract : String) (fetcher : Fetcher σ) (scenarios : List Scenario) (state : σ) :
    let session := (run contract fetcher scenarios state).1
    (Reached fetcher scenarios state scenarios.length ∧ session.abort = none) ∨
      (∃ k scenario error, Unreachable fetcher scenarios state k scenario error ∧
        session.abort = some ⟨.transport, fetcher.target scenario.query
          (stateBefore fetcher scenarios state k), error.message⟩) ∨
      ∃ k scenario response error,
        Unreadable fetcher scenarios state k scenario response error ∧
          session.abort = some ⟨.parse, fetcher.target scenario.query
            (stateBefore fetcher scenarios state k), error.message⟩ ∧
          reportAt fetcher scenarios state k scenario response ∈ session.scenarios := by
  rcases reached_or_stops fetcher scenarios state _ (Nat.le_refl _) with
    reached | ⟨k, scenario, error, stopped⟩ | ⟨k, scenario, response, error, stopped⟩
  · obtain ⟨_, _, ran⟩ := runAll_of_finished reached
    exact .inl ⟨reached, by simp [run, ran]⟩
  · obtain ⟨_, _, ran⟩ := runAll_of_unreachable stopped
    exact .inr (.inl ⟨k, scenario, error, stopped, by simp [run, ran]⟩)
  · obtain ⟨reports, before, ran⟩ := runAll_of_unreadable stopped
    have reported := before.each k scenario response (Nat.lt_succ_self k) stopped.answered
    refine .inr (.inr ⟨k, scenario, response, error, stopped, by simp [run, ran], ?_⟩)
    simpa [run, ran] using List.mem_of_getElem? reported

theorem run_abort_eq_none_iff (contract : String) (fetcher : Fetcher σ)
    (scenarios : List Scenario) (state : σ) :
    (run contract fetcher scenarios state).1.abort = none ↔
      Reached fetcher scenarios state scenarios.length := by
  constructor
  · intro finished
    rcases run_ends contract fetcher scenarios state with
      ⟨reached, _⟩ | ⟨_, _, _, _, aborted⟩ | ⟨_, _, _, _, _, aborted, _⟩
    · exact reached
    · simp [finished] at aborted
    · simp [finished] at aborted
  · intro reached
    obtain ⟨_, _, ran⟩ := runAll_of_finished reached
    simp [run, ran]

theorem run_transport_iff (contract : String) (fetcher : Fetcher σ) (scenarios : List Scenario)
    (state : σ) :
    (∃ abort, (run contract fetcher scenarios state).1.abort = some abort ∧
        abort.kind = .transport) ↔
      ∃ k scenario error, Unreachable fetcher scenarios state k scenario error := by
  constructor
  · rintro ⟨abort, aborted, kind⟩
    rcases run_ends contract fetcher scenarios state with
      ⟨_, finished⟩ | ⟨k, scenario, error, stopped, _⟩ | ⟨_, _, _, _, _, parse, _⟩
    · simp [finished] at aborted
    · exact ⟨k, scenario, error, stopped⟩
    · obtain rfl := Option.some.inj (parse.symm.trans aborted)
      simp at kind
  · rintro ⟨k, scenario, error, stopped⟩
    obtain ⟨_, _, ran⟩ := runAll_of_unreachable stopped
    exact ⟨⟨.transport, fetcher.target scenario.query (stateBefore fetcher scenarios state k),
      error.message⟩, by simp [run, ran], rfl⟩

theorem run_parse_failCount (contract : String) (fetcher : Fetcher σ) (scenarios : List Scenario)
    (state : σ) (abort : Abort)
    (aborted : (run contract fetcher scenarios state).1.abort = some abort)
    (kind : abort.kind = .parse) : 1 ≤ (run contract fetcher scenarios state).1.failCount := by
  rcases run_ends contract fetcher scenarios state with
    ⟨_, finished⟩ | ⟨_, _, _, _, transport⟩ | ⟨k, scenario, response, error, stopped, _, recorded⟩
  · simp [finished] at aborted
  · obtain rfl := Option.some.inj (transport.symm.trans aborted)
    simp at kind
  · have failing : Scenario.parseFailure error ∈
        (reportAt fetcher scenarios state k scenario response).report.outcomes := by
      simp [reportAt, Report.ofOutcomes, Scenario.outcomes, stopped.broken]
    apply Nat.one_le_iff_ne_zero.mpr
    intro clean
    have counted := run_counted contract fetcher scenarios state
    have passed := (SessionReport.failCount_eq_zero_iff _ counted).mp clean _ recorded _ failing
    simp [Scenario.parseFailure, Outcome.fail] at passed

theorem run_views_agree (contract : String) (fetcher : Fetcher σ) (scenarios : List Scenario)
    (state : σ) :
    let session := (run contract fetcher scenarios state).1
    let code := session.exitStatus.code
    (code = 0 ↔ Reached fetcher scenarios state scenarios.length ∧
        ∀ scenario ∈ session.scenarios, ∀ outcome ∈ scenario.report.outcomes,
          outcome.passed = true) ∧
      (code = 2 ↔ ∃ k scenario error, Unreachable fetcher scenarios state k scenario error) ∧
      (code = 0 ∨ code = 1 ∨ code = 2) ∧
      (∀ abort, session.abort = some abort → abort.kind = .parse →
        code = 1 ∧ 1 ≤ session.failCount) ∧
      session.passCount = session.outcomes.countP Outcome.passed ∧
      session.passCount + session.failCount = session.outcomes.length ∧
      (code = 0 ↔ session.passed = true) ∧
      (session.passed = true ↔ EndsInLines ["OVERALL: PASS"] session.renderText) ∧
      (EndsInLines ["  \"exit_code\": 0", "\x7d"] session.renderJson ↔
        EndsInLines ["OVERALL: PASS"] session.renderText) ∧
      -- Counts of outcomes in memory fit a word.
      (session.outcomes.length < 2 ^ 64 → EndsInLines
        ["  \"pass_count\": " ++ decimalText session.passCount ++ ",",
          "  \"fail_count\": " ++ decimalText session.failCount ++ ",",
          "  \"exit_code\": " ++ decimalText code, "\x7d"] session.renderJson) := by
  intro session code
  have counted : session.Counted := run_counted contract fetcher scenarios state
  have finished : session.abort = none ↔ Reached fetcher scenarios state scenarios.length :=
    run_abort_eq_none_iff contract fetcher scenarios state
  have zero : code = 0 ↔ session.abort = none ∧ session.failCount = 0 := session.code_eq_zero_iff
  have passed : session.passed = true ↔ code = 0 := session.passed_iff.trans zero.symm
  refine ⟨?zero, ?two, ?range, ?parse, session.passCount_eq_countP counted,
    session.counts_add counted, passed.symm, session.passed_iff_renderText, ?json, ?counts⟩
  case zero =>
    rw [zero, finished, session.failCount_eq_zero_iff counted]
  case two =>
    rw [session.code_eq_two_iff]
    exact run_transport_iff contract fetcher scenarios state
  case range =>
    have bound : code ≤ 2 := session.code_le_two
    omega
  case parse =>
    intro abort aborted kind
    refine ⟨?_, run_parse_failCount contract fetcher scenarios state abort aborted kind⟩
    simp [code, SessionReport.code_of_aborted aborted, kind]
  case json =>
    rw [← session.code_eq_zero_iff_renderJson, ← session.passed_iff_renderText]
    exact passed.symm
  case counts =>
    intro small
    apply session.renderJson_endsInLines
    rwa [session.counts_add counted]

end Session

end OrdersContract
