import OrdersContract.Proofs.DistinctLabels

set_option autoImplicit false

namespace OrdersContract

open Json Text

-- At the root the mark of a place leaves nothing behind, so this is the shortest label.
def Rule.isLabelled (rule : Rule) : Bool := !(putPlace [] (charsOf rule.label)).isEmpty

theorem Rule.labelAt_ne {rule : Rule} (labelled : rule.isLabelled = true) (path : Path) :
    rule.labelAt path ≠ "" := by
  have told : putPlace [] rule.label.toList ≠ [] := by
    simpa [isLabelled, charsOf_eq] using labelled
  rw [ne_eq, ← String.toList_eq_nil_iff, labelAt, String.toList_ofList]
  exact putPlace_ne_nil told _

theorem Group.label_ne_of_mem_outcomes {group : Group}
    (labelled : ∀ rule ∈ group.allRules, rule.isLabelled = true) {parent : Value} {path : Path}
    {outcome : Outcome} (made : outcome ∈ group.outcomes parent path) : outcome.label ≠ "" := by
  obtain ⟨rule, listed, _, _, _, own⟩ := exists_rule_of_mem_outcomes made
  rw [Rule.labelAt_of_mem_outcome? own]
  exact rule.labelAt_ne (labelled rule listed) _

theorem ExchangeTerms.label_ne_of_mem_outcomes {terms : ExchangeTerms} {response : Response}
    {requests : Nat} {outcome : Outcome} (made : outcome ∈ terms.outcomes response requests) :
    outcome.label ≠ "" := by
  simp only [outcomes, List.mem_cons, List.mem_append, List.mem_ite_nil_right, List.not_mem_nil,
    or_false, Option.mem_toList, Option.map_eq_some_iff] at made
  rcases made with rfl | (⟨_, rfl⟩ | ⟨_, rfl⟩) | ⟨limit, _, rfl⟩
  · simp [statusOutcome]
  · simp [contentOutcome]
  · simp [requestsOutcome]
  · simp [payloadOutcome]

structure Scenario.Labelled (scenario : Scenario) : Prop where
  name : scenario.name ≠ ""
  rules : ∀ rule ∈ scenario.rules.root.allRules, rule.isLabelled = true

theorem Scenario.Labelled.label_ne {scenario : Scenario} (labelled : scenario.Labelled)
    {response : Response} {requests : Nat} {document : Except ReadError Value} {outcome : Outcome}
    (made : outcome ∈ scenario.outcomes response requests document) : outcome.label ≠ "" := by
  rcases List.mem_append.mp made with exchange | body
  · exact ExchangeTerms.label_ne_of_mem_outcomes exchange
  · cases document with
    | ok document => exact Group.label_ne_of_mem_outcomes labelled.rules body
    | error error =>
      obtain rfl := List.mem_singleton.mp body
      simp [parseFailure, Outcome.fail]

structure SessionReport.Labelled (session : SessionReport) : Prop where
  contract : ∃ preset : Preset, session.contract = preset.name
  names : ∀ scenario ∈ session.scenarios, scenario.name ≠ ""
  labels : ∀ scenario ∈ session.scenarios, ∀ outcome ∈ scenario.report.outcomes, outcome.label ≠ ""

theorem Preset.scenarios_labelled (preset : Preset) (payloadLimit : Nat) :
    ∀ scenario ∈ preset.scenarios payloadLimit, scenario.Labelled := by
  have minor : ∀ rule ∈ Contract.MinorUnits.rules.root.allRules, rule.isLabelled = true := by
    decide +kernel
  have major : ∀ scenario ∈ Contract.MajorUnits.scenarios, scenario.name ≠ "" ∧
      ∀ rule ∈ scenario.rules.root.allRules, rule.isLabelled = true := by
    decide +kernel
  intro scenario listed
  cases preset with
  | minorUnits =>
    obtain rfl := List.mem_singleton.mp listed
    exact ⟨by simp, minor⟩
  | majorUnits => exact ⟨(major scenario listed).1, (major scenario listed).2⟩

theorem Preset.run_labelled (preset : Preset) (payloadLimit : Nat) {σ : Type} (fetcher : Fetcher σ)
    (state : σ) :
    (Session.run preset.name fetcher (preset.scenarios payloadLimit) state).1.Labelled := by
  have made := Session.runAll_reports_made fetcher (preset.scenarios payloadLimit) state
  refine ⟨⟨preset, rfl⟩, ?_, ?_⟩
  · intro report reported
    obtain ⟨_, scenario, _, _, answered, rfl⟩ := made report reported
    have listed := List.mem_of_getElem? answered.listed
    exact (preset.scenarios_labelled payloadLimit scenario listed).name
  · intro report reported outcome recorded
    obtain ⟨_, scenario, _, _, answered, rfl⟩ := made report reported
    have listed := List.mem_of_getElem? answered.listed
    exact (preset.scenarios_labelled payloadLimit scenario listed).label_ne recorded

end OrdersContract
