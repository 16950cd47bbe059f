import Mathlib.Algebra.BigOperators.Group.List.Basic
import Mathlib.Algebra.Ring.Nat
import OrdersContract.Proofs.SingleLineRules
import OrdersContract.Proofs.Verdicts

set_option autoImplicit false

namespace OrdersContract

open Text

namespace Outcome

theorem FitsLines.length_lines {outcome : Outcome} (fits : outcome.FitsLines) :
    outcome.lines.length = if outcome.passed then 1 else 2 := by
  have told := fits.told
  cases passed : outcome.passed <;> cases detail : outcome.detail <;>
    simp_all [lines]

theorem FitsLines.oneLine_lines {outcome : Outcome} (fits : outcome.FitsLines) :
    ∀ line ∈ outcome.lines, OneLine line := by
  have marks : OneLine "  PASS: " ∧ OneLine "  FAIL: " ∧ OneLine "        " := by decide
  unfold lines
  split
  next => simp [marks, fits.label]
  next =>
    cases told : outcome.detail with
    | none => simp [marks, fits.label]
    | some detail => simp [marks, fits.label, fits.detail detail told]

theorem sum_length_lines {outcomes : List Outcome} (fit : ∀ outcome ∈ outcomes, outcome.FitsLines) :
    (outcomes.flatMap lines).length =
      outcomes.countP passed + 2 * (outcomes.length - outcomes.countP passed) := by
  induction outcomes with
  | nil => rfl
  | cons outcome rest ih =>
    have own := (fit outcome List.mem_cons_self).length_lines
    have others := ih fun outcome member => fit outcome (List.mem_cons_of_mem _ member)
    have bound := List.countP_le_length (p := passed) (l := rest)
    rw [List.flatMap_cons, List.length_append, own, others, List.countP_cons, List.length_cons]
    split <;> omega

end Outcome

namespace ScenarioReport

structure FitsLines (scenario : ScenarioReport) : Prop where
  name : OneLine scenario.name
  target : OneLine scenario.target
  outcomes : ∀ outcome ∈ scenario.report.outcomes, outcome.FitsLines
  counted : scenario.report = .ofOutcomes scenario.report.outcomes

theorem FitsLines.length_lines {scenario : ScenarioReport} (fits : scenario.FitsLines)
    (index : Nat) : (scenario.lines index).length =
      3 + scenario.report.passCount + 2 * scenario.report.failCount := by
  rw [lines, List.length_append, Outcome.sum_length_lines fits.outcomes, fits.counted]
  simp only [Report.ofOutcomes, List.length_cons, List.length_nil]
  omega

theorem FitsLines.oneLine_lines {scenario : ScenarioReport} (fits : scenario.FitsLines)
    (index : Nat) : ∀ line ∈ scenario.lines index, OneLine line := by
  have marks : ∀ mark ∈ ["", "[Scenario ", "] ", "  GET "], OneLine mark := by decide
  simp only [List.forall_mem_cons] at marks
  rw [lines, List.forall_mem_append]
  constructor
  · simp [marks, fits.name, fits.target]
  · exact List.forall_mem_flatMap.mpr fun outcome member => (fits.outcomes outcome member).oneLine_lines

end ScenarioReport

namespace SessionReport

structure FitsLines (session : SessionReport) : Prop where
  contract : OneLine session.contract
  scenarios : ∀ scenario ∈ session.scenarios, scenario.FitsLines
  abort : ∀ abort, session.abort = some abort → OneLine abort.line

theorem FitsLines.length_lines {session : SessionReport} (fits : session.FitsLines) :
    session.lines.length =
      4 + (session.scenarios.map fun scenario =>
        3 + scenario.report.passCount + 2 * scenario.report.failCount).sum +
          session.abort.toList.length := by
  have each : (session.scenarios.mapIdx ScenarioReport.lines).map List.length =
      session.scenarios.map fun scenario =>
        3 + scenario.report.passCount + 2 * scenario.report.failCount := by
    apply List.ext_getElem (by simp)
    intro i _ _
    simp [(fits.scenarios _ (List.getElem_mem _)).length_lines]
  have told : (session.abort.map Abort.line).toList.length = session.abort.toList.length := by
    cases session.abort <;> rfl
  simp only [lines, List.length_append, List.length_cons, List.length_nil, List.length_flatten, each,
    told]
  omega

theorem FitsLines.oneLine_lines {session : SessionReport} (fits : session.FitsLines) :
    ∀ line ∈ session.lines, OneLine line := by
  have marks : ∀ mark ∈ ["Contract: ", "", "RESULTS: ", " passed, ", " failed", "OVERALL: "],
      OneLine mark := by decide
  simp only [List.forall_mem_cons] at marks
  have verdict : OneLine (if session.passed then "PASS" else "FAIL") := by
    split <;> decide
  simp only [lines, List.cons_append, List.forall_mem_cons, List.forall_mem_append]
  refine ⟨by simp [marks, fits.contract], ⟨⟨?_, by simp [marks]⟩, ?_⟩, by simp [marks],
    by simp [marks, verdict], by simp⟩
  · intro line member
    obtain ⟨part, listed, inside⟩ := List.mem_flatten.mp member
    obtain ⟨i, within, rfl⟩ := List.mem_mapIdx.mp listed
    exact (fits.scenarios _ (List.getElem_mem within)).oneLine_lines i line inside
  · intro line member
    obtain ⟨abort, aborted, rfl⟩ := Option.map_eq_some_iff.mp (Option.mem_toList.mp member)
    exact fits.abort abort aborted

end SessionReport

-- The text of a fault in a body is a line; that of a request that failed need not be one.
theorem Preset.run_fitsLines (preset : Preset) (payloadLimit : Nat) {σ : Type} (fetcher : Fetcher σ)
    (state : σ)
    (targets : ∀ k scenario, Session.Reached fetcher (preset.scenarios payloadLimit) state k →
      (preset.scenarios payloadLimit)[k]? = some scenario →
        OneLine (fetcher.target scenario.query
          (Session.stateBefore fetcher (preset.scenarios payloadLimit) state k)))
    (answered : ∀ abort, (Session.run preset.name fetcher (preset.scenarios payloadLimit)
      state).1.abort = some abort → abort.kind ≠ .transport) :
    (Session.run preset.name fetcher (preset.scenarios payloadLimit) state).1.FitsLines := by
  have named : OneLine preset.name := by cases preset <;> decide
  refine ⟨named, ?_, ?_⟩
  · intro report reported
    obtain ⟨k, scenario, response, reached, answered, rfl⟩ :=
      Session.runAll_reports_made fetcher (preset.scenarios payloadLimit) state report reported
    have fits := preset.scenarios_fitLines payloadLimit scenario
      (List.mem_of_getElem? answered.listed)
    exact ⟨fits.name, targets k scenario reached answered.listed, fits.outcomes response _ _, rfl⟩
  · intro abort aborted
    rcases Session.run_ends preset.name fetcher (preset.scenarios payloadLimit) state with
      ⟨_, finished⟩ | ⟨_, _, _, _, transport⟩ | ⟨k, scenario, _, error, stopped, parse, _⟩
    · simp [finished] at aborted
    · exact absurd rfl (answered _ transport)
    · obtain rfl := Option.some.inj (parse.symm.trans aborted)
      have marks : OneLine "ABORTED: response from " ∧ OneLine " is not valid JSON: " := by
        decide
      have target := targets k scenario stopped.reached stopped.answered.listed
      simp [Abort.line, marks, target, error.oneLine_message]

/-- The text of a report has no other lines than those that its counts tell. -/
theorem Preset.run_line_count (preset : Preset) (payloadLimit : Nat) {σ : Type}
    (fetcher : Fetcher σ) (state : σ)
    (targets : ∀ k scenario, Session.Reached fetcher (preset.scenarios payloadLimit) state k →
      (preset.scenarios payloadLimit)[k]? = some scenario →
        OneLine (fetcher.target scenario.query
          (Session.stateBefore fetcher (preset.scenarios payloadLimit) state k)))
    (answered : ∀ abort, (Session.run preset.name fetcher (preset.scenarios payloadLimit)
      state).1.abort = some abort → abort.kind ≠ .transport) :
    let session := (Session.run preset.name fetcher (preset.scenarios payloadLimit) state).1
    (∀ scenario ∈ session.scenarios, ∀ outcome ∈ scenario.report.outcomes,
      OneLine outcome.label ∧ (∀ detail, outcome.detail = some detail → OneLine detail) ∧
        (outcome.passed = false → ∃ detail, outcome.detail = some detail)) ∧
      ∃ lines : List String,
        session.renderText = String.join (lines.map (· ++ "\n")) ∧
        (∀ line ∈ lines, OneLine line) ∧
        lines.length = 4 + (session.scenarios.map fun scenario =>
          3 + scenario.report.passCount + 2 * scenario.report.failCount).sum +
            if session.abort.map Abort.kind = some .parse then 1 else 0 := by
  intro session
  have fits : session.FitsLines := preset.run_fitsLines payloadLimit fetcher state targets answered
  have last : session.abort.toList.length =
      if session.abort.map Abort.kind = some .parse then 1 else 0 := by
    cases aborted : session.abort with
    | none => rfl
    | some abort =>
      have kind := answered abort aborted
      cases told : abort.kind <;> simp_all
  refine ⟨?_, session.lines, rfl, fits.oneLine_lines, ?_⟩
  · intro scenario reported outcome member
    have own := (fits.scenarios scenario reported).outcomes outcome member
    refine ⟨own.label, own.detail, fun failed => ?_⟩
    rw [← Option.isSome_iff_exists, own.told, failed]
    rfl
  · rw [fits.length_lines, last]

theorem minorUnits_lines_of_empty_bodies :
    let fetcher : Fetcher Unit :=
      ⟨fun _ _ => "http://localhost/", fun _ _ => (.ok ⟨200, none, []⟩, ()), fun _ => 0⟩
    let session := (Session.run Preset.minorUnits.name fetcher (Preset.minorUnits.scenarios 0) ()).1
    ∃ lines : List String, session.renderText = String.join (lines.map (· ++ "\n")) ∧
      lines.length = 4 + (session.scenarios.map fun scenario =>
        3 + scenario.report.passCount + 2 * scenario.report.failCount).sum +
          if session.abort.map Abort.kind = some .parse then 1 else 0 := by
  intro fetcher session
  have answered : ∀ abort, session.abort = some abort → abort.kind ≠ .transport := by
    intro abort aborted transport
    obtain ⟨k, scenario, error, stopped⟩ := (Session.run_transport_iff _ _ _ _).mp
      ⟨abort, aborted, transport⟩
    cases stopped.answered.fetched
  have target : OneLine "http://localhost/" := by decide
  obtain ⟨_, lines, text, _, count⟩ := Preset.run_line_count .minorUnits 0 fetcher ()
    (fun _ _ _ _ => target) answered
  exact ⟨lines, text, count⟩

end OrdersContract
