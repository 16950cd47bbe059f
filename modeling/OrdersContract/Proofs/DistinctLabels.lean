import OrdersContract.Contract.Preset
import OrdersContract.Proofs.LabelPatterns
import OrdersContract.Proofs.Sessions

set_option autoImplicit false

namespace OrdersContract

open Json Text

-- The first outcome with a label is the only one.
theorem Report.outcome?_of_distinct {report : Report}
    (distinct : (report.outcomes.map Outcome.label).Nodup) {outcome : Outcome}
    (member : outcome ∈ report.outcomes) : report.outcome? outcome.label = some outcome := by
  rw [outcome?]
  generalize report.outcomes = outcomes at distinct member ⊢
  induction outcomes with
  | nil => simp at member
  | cons first rest ih =>
    rw [List.map_cons, List.nodup_cons] at distinct
    cases List.mem_cons.mp member with
    | inl same => simp [same]
    | inr later =>
      have other : first.label ≠ outcome.label := by
        intro same
        exact distinct.1 (same ▸ List.mem_map_of_mem later)
      rw [List.find?_cons_of_neg (by simpa using other)]
      exact ih distinct.2 later

def ExchangeTerms.labels (terms : ExchangeTerms) : List String :=
  (terms.outcomes ⟨0, none, []⟩ 0).map Outcome.label

theorem ExchangeTerms.map_label_outcomes (terms : ExchangeTerms) (response : Response)
    (requests : Nat) : (terms.outcomes response requests).map Outcome.label = terms.labels := by
  cases limit : terms.payloadLimit <;> cases content : terms.jsonContent <;>
    cases one : terms.oneRequest <;>
      simp [labels, outcomes, statusOutcome, contentOutcome, requestsOutcome, payloadOutcome, limit,
        content, one]

namespace Scenario

def brokenLabel : String := "response body is valid JSON"

def patterns (scenario : Scenario) : List (List Char) :=
  scenario.exchange.labels.map (withoutDigits <| charsOf ·) ++
    withoutDigits (charsOf brokenLabel) :: scenario.rules.root.patterns []

/-- Its patterns are different, and its rules about elements begin with the place. -/
structure TellsApart (scenario : Scenario) : Prop where
  distinct : scenario.patterns.Nodup
  tells : scenario.rules.root.tellsElements = true

instance (scenario : Scenario) : Decidable scenario.TellsApart :=
  decidable_of_iff (scenario.patterns.Nodup ∧ scenario.rules.root.tellsElements = true)
    ⟨fun both => ⟨both.1, both.2⟩, fun apart => ⟨apart.distinct, apart.tells⟩⟩

theorem labels_nodup {scenario : Scenario} (apart : scenario.TellsApart) (response : Response)
    (requests : Nat) (document : Except ReadError Value) :
    ((scenario.outcomes response requests document).map Outcome.label).Nodup := by
  have distinct := apart.distinct
  rw [patterns] at distinct
  have parts := List.nodup_append.mp distinct
  have exchange : HavePatterns (scenario.exchange.labels.map (withoutDigits <| charsOf ·))
      ((scenario.exchange.outcomes response requests).map Outcome.label) := by
    rw [ExchangeTerms.map_label_outcomes]
    refine ⟨parts.1.of_map _, fun label member => ?_⟩
    rw [← charsOf_eq]
    exact List.mem_map.mpr ⟨label, member, rfl⟩
  have whole {labels : List String} (body : HavePatterns
      (withoutDigits (charsOf brokenLabel) :: scenario.rules.root.patterns []) labels) :
      ((scenario.exchange.outcomes response requests).map Outcome.label ++ labels).Nodup :=
    (HavePatterns.append distinct exchange body).distinct
  unfold outcomes
  rw [List.map_append]
  cases document with
  | error error =>
    apply whole
    exact ⟨List.nodup_singleton _, by simp [parseFailure, Outcome.fail, brokenLabel, charsOf_eq]⟩
  | ok document =>
    have rules := scenario.rules.root.labels_havePatterns document []
      (List.nodup_cons.mp parts.2.1).2 apart.tells
    apply whole
    exact ⟨rules.distinct, fun label member => List.mem_cons_of_mem _ (rules.listed label member)⟩

end Scenario

theorem ExchangeTerms.payload_pattern (limit : Nat) (response : Response) :
    withoutDigits (payloadOutcome limit response).label.toList =
      withoutDigits "payload size is under  bytes".toList := by
  have parts : "payload size is under  bytes" = "payload size is under " ++ " bytes" := by
    decide
  rw [parts]
  simp only [payloadOutcome, Outcome.check_label, decimalText, String.toList_append,
    String.toList_ofList, withoutDigits_append, withoutDigits_decimal, List.append_nil]

-- The limit is a number, so the patterns do not depend on it.
theorem Contract.MinorUnits.tellApart (payloadLimit : Nat) :
    ∀ scenario ∈ MinorUnits.scenarios payloadLimit, scenario.TellsApart := by
  have same : (MinorUnits.scenarios payloadLimit).map Scenario.patterns =
      (MinorUnits.scenarios 0).map Scenario.patterns := by
    simp [MinorUnits.scenarios, Scenario.patterns, ExchangeTerms.labels, ExchangeTerms.outcomes,
      charsOf_eq, ExchangeTerms.payload_pattern]
  have least : ∀ scenario ∈ MinorUnits.scenarios 0, scenario.TellsApart := by decide +kernel
  intro scenario listed
  obtain rfl := List.mem_singleton.mp listed
  constructor
  · have equal := List.singleton_inj.mp same
    rw [equal]
    exact (least _ List.mem_cons_self).distinct
  · exact (least _ List.mem_cons_self).tells

theorem Contract.MajorUnits.tellApart : ∀ scenario ∈ MajorUnits.scenarios, scenario.TellsApart := by
  decide +kernel

theorem Preset.tellApart (preset : Preset) (payloadLimit : Nat) :
    ∀ scenario ∈ preset.scenarios payloadLimit, scenario.TellsApart := by
  cases preset with
  | minorUnits => exact Contract.MinorUnits.tellApart payloadLimit
  | majorUnits => exact Contract.MajorUnits.tellApart

/-- Whatever a fetcher answers, all labels of a scenario of a preset are different, and looking a
label up gives the outcome that has it. -/
theorem Preset.run_labels_distinct (preset : Preset) (payloadLimit : Nat) {σ : Type}
    (contract : String) (fetcher : Fetcher σ) (state : σ) :
    ∀ scenario ∈
        (Session.run contract fetcher (preset.scenarios payloadLimit) state).1.scenarios,
      (scenario.report.outcomes.map Outcome.label).Nodup ∧
        ∀ outcome ∈ scenario.report.outcomes,
          scenario.report.outcome? outcome.label = some outcome := by
  intro report reported
  obtain ⟨k, scenario, response, _, answered, rfl⟩ :=
    Session.runAll_reports_made fetcher (preset.scenarios payloadLimit) state report reported
  have apart := preset.tellApart payloadLimit scenario (List.mem_of_getElem? answered.listed)
  have distinct := Scenario.labels_nodup apart response
    (Session.requestsAt fetcher (preset.scenarios payloadLimit) state k) response.document
  exact ⟨distinct, fun outcome member => Report.outcome?_of_distinct distinct member⟩

theorem minorUnits_labels_of_empty_objects :
    let fetcher : Fetcher Unit :=
      ⟨fun _ _ => "http://localhost/", fun _ _ => (.ok ⟨200, none, [0x7b, 0x7d]⟩, ()), fun _ => 0⟩
    let session := (Session.run "minor-units" fetcher (Preset.minorUnits.scenarios 0) ()).1
    ∃ scenario ∈ session.scenarios,
      (scenario.report.outcomes.map Outcome.label).Nodup ∧
        ∀ outcome ∈ scenario.report.outcomes,
          scenario.report.outcome? outcome.label = some outcome := by
  intro fetcher session
  have filled : 0 < session.scenarios.length := by decide +kernel
  have reported : session.scenarios[0] ∈ session.scenarios := List.getElem_mem filled
  exact ⟨_, reported, Preset.run_labels_distinct .minorUnits 0 "minor-units" fetcher () _ reported⟩

end OrdersContract
