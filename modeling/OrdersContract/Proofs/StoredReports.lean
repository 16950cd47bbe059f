import Mathlib.Algebra.Order.BigOperators.Group.List
import Mathlib.Algebra.Order.Group.Nat
import OrdersContract.Proofs.LastLines
import OrdersContract.Proofs.Verdicts
import OrdersContract.Proofs.WrittenValues

set_option autoImplicit false

namespace OrdersContract

open Json Text

namespace Json.Value

def bool? : Value → Option Bool
  | .bool b => some b
  | _ => none

def natural? : Value → Option Nat
  | .number (.integer n) => n.val.toNat?
  | _ => none

def member? {α : Type} (read : Value → Option α) (name : String) (value : Value) : Option α :=
  (value.get? name).bind read

/-- A member that may be left out, but not be of another kind. -/
def optional? {α : Type} (read : Value → Option α) (name : String) (value : Value) :
    Option (Option α) :=
  match value.get? name with
  | none => some none
  | some member => (read member).map some

def list? {α : Type} (read : Value → Option α) (value : Value) : Option (List α) :=
  value.items?.bind (·.mapM read)

end Json.Value

section Reading

open Json.Value

def Outcome.ofValue? (value : Value) : Option Outcome := do
  let label ← value.member? string? "label"
  let passed ← value.member? bool? "passed"
  let detail ← value.optional? string? "detail"
  some ⟨label, passed, detail⟩

def Report.ofValue? (value : Value) : Option Report := do
  let outcomes ← value.member? (list? Outcome.ofValue?) "outcomes"
  let passCount ← value.member? natural? "pass_count"
  let failCount ← value.member? natural? "fail_count"
  some ⟨outcomes, passCount, failCount⟩

def ScenarioReport.ofValue? (value : Value) : Option ScenarioReport := do
  let name ← value.member? string? "name"
  let target ← value.member? string? "target"
  let report ← value.member? Report.ofValue? "report"
  some ⟨name, target, report⟩

def AbortKind.ofName? (name : String) : Option AbortKind :=
  [.transport, .parse].find? fun kind => kind.name == name

def Abort.ofValue? (value : Value) : Option Abort := do
  let kind ← value.member? (fun kind => kind.string?.bind AbortKind.ofName?) "kind"
  let target ← value.member? string? "target"
  let message ← value.member? string? "message"
  some ⟨kind, target, message⟩

def SessionReport.ofValue? (value : Value) : Option SessionReport := do
  let contract ← value.member? string? "contract"
  let scenarios ← value.member? (list? ScenarioReport.ofValue?) "scenarios"
  let abort ← value.optional? Abort.ofValue? "abort"
  some ⟨contract, scenarios, abort⟩

end Reading

namespace Json.Value

theorem member?_ordered {α : Type} (read : Value → Option α) (name : String)
    (members : List (String × Value)) :
    (object members).ordered.member? read name =
      ((members.reverse.lookup name).map ordered).bind read := by
  rw [member?, get?_ordered]

theorem optional?_ordered {α : Type} (read : Value → Option α) (name : String)
    (members : List (String × Value)) :
    (object members).ordered.optional? read name =
      match members.reverse.lookup name with
      | none => some none
      | some member => (read member.ordered).map some := by
  rw [optional?, get?_ordered]
  cases members.reverse.lookup name <;> rfl

theorem list?_ordered {α : Type} {read : Value → Option α} {write : α → Value} {items : List α}
    (each : ∀ item ∈ items, read (write item).ordered = some item) :
    (array (items.map write)).ordered.list? read = some items := by
  rw [ordered_array, list?, items?, Option.bind_some]
  induction items with
  | nil => rfl
  | cons item rest ih =>
    have own := each item List.mem_cons_self
    have others := ih fun item listed => each item (List.mem_cons_of_mem _ listed)
    simp only [List.map_cons, List.mapM_cons, own, others]
    rfl

end Json.Value

section Written

open Json.Value

theorem Outcome.ofValue?_ordered (outcome : Outcome) :
    Outcome.ofValue? outcome.toValue.ordered = some outcome := by
  obtain ⟨label, passed, detail⟩ := outcome
  cases detail <;>
    simp [ofValue?, toValue, member?_ordered, optional?_ordered, lookup_member, string?, bool?]

theorem natural?_countValue {count : Nat} (small : count < 2 ^ 64) :
    (countValue count).ordered.natural? = some count := by
  obtain ⟨n, exact, whole⟩ := SessionReport.countValue_of_lt small
  rw [whole, ordered_number, natural?, exact]
  rfl

theorem Outcome.toValue_exact (outcome : Outcome) (depth : Nat) :
    outcome.toValue.ExactWithin (depth + 1) := by
  apply ExactWithin.object
  cases outcome.detail <;> simp [ExactWithin.string, ExactWithin.bool]

theorem countValue_exact {count : Nat} (small : count < 2 ^ 64) (depth : Nat) :
    (countValue count).ExactWithin depth := by
  obtain ⟨n, _, whole⟩ := SessionReport.countValue_of_lt small
  rw [whole]
  exact .number depth n

structure Report.Fits (report : Report) : Prop where
  passes : report.passCount < 2 ^ 64
  fails : report.failCount < 2 ^ 64

theorem ScenarioReport.ofValue?_ordered {scenario : ScenarioReport} (fits : scenario.report.Fits) :
    ScenarioReport.ofValue? scenario.toValue.ordered = some scenario := by
  have outcomes : (array (scenario.report.outcomes.map Outcome.toValue)).ordered.list?
      Outcome.ofValue? = some scenario.report.outcomes :=
    list?_ordered fun outcome _ => outcome.ofValue?_ordered
  have passes := natural?_countValue fits.passes
  have fails := natural?_countValue fits.fails
  simp [ofValue?, toValue, Report.ofValue?, member?_ordered, lookup_member, string?, outcomes,
    passes, fails, -ordered_array]

theorem ScenarioReport.toValue_exact {scenario : ScenarioReport} (fits : scenario.report.Fits)
    (depth : Nat) : scenario.toValue.ExactWithin (depth + 4) := by
  have outcomes :
      (array (scenario.report.outcomes.map Outcome.toValue)).ExactWithin (depth + 2) :=
    .array (List.forall_mem_map.mpr fun outcome _ => outcome.toValue_exact depth)
  have report : (object [("outcomes", array (scenario.report.outcomes.map Outcome.toValue)),
      ("pass_count", countValue scenario.report.passCount),
      ("fail_count", countValue scenario.report.failCount)]).ExactWithin (depth + 3) := by
    apply ExactWithin.object
    simp [outcomes, countValue_exact fits.passes, countValue_exact fits.fails]
  apply ExactWithin.object
  simp [report, ExactWithin.string]

theorem Abort.toValue_exact (abort : Abort) (depth : Nat) :
    abort.toValue.ExactWithin (depth + 1) := by
  apply ExactWithin.object
  simp [ExactWithin.string]

theorem Abort.ofValue?_ordered (abort : Abort) :
    Abort.ofValue? abort.toValue.ordered = some abort := by
  have kind : AbortKind.ofName? abort.kind.name = some abort.kind := by
    cases abort.kind <;> rfl
  simp [ofValue?, toValue, member?_ordered, lookup_member, string?, kind]

end Written

namespace SessionReport

theorem fits_of_mem {session : SessionReport} (passes : session.passCount < 2 ^ 64)
    (fails : session.failCount < 2 ^ 64) :
    ∀ scenario ∈ session.scenarios, scenario.report.Fits := by
  intro scenario listed
  rw [passCount_eq_sum] at passes
  rw [failCount_eq_sum] at fails
  have passed : scenario.report.passCount ∈ session.scenarios.map (·.report.passCount) :=
    List.mem_map_of_mem listed
  have failed : scenario.report.failCount ∈ session.scenarios.map (·.report.failCount) :=
    List.mem_map_of_mem listed
  exact ⟨Nat.lt_of_le_of_lt (List.le_sum_of_mem passed) passes,
    Nat.lt_of_le_of_lt (List.le_sum_of_mem failed) fails⟩

theorem ofValue?_ordered {session : SessionReport}
    (fit : ∀ scenario ∈ session.scenarios, scenario.report.Fits) :
    SessionReport.ofValue? session.toValue.ordered = some session := by
  have reports : (Value.array (session.scenarios.map ScenarioReport.toValue)).ordered.list?
      ScenarioReport.ofValue? = some session.scenarios :=
    Value.list?_ordered fun scenario listed => ScenarioReport.ofValue?_ordered (fit scenario listed)
  obtain ⟨contract, scenarios, abort⟩ := session
  cases abort <;>
    simp [ofValue?, toValue, Value.member?_ordered, Value.optional?_ordered, lookup_member,
      Value.string?, reports, Abort.ofValue?_ordered, -Value.ordered_array]

theorem toValue_exact {session : SessionReport} (passes : session.passCount < 2 ^ 64)
    (fails : session.failCount < 2 ^ 64) (depth : Nat) :
    session.toValue.ExactWithin (depth + 6) := by
  have reports :
      (Value.array (session.scenarios.map ScenarioReport.toValue)).ExactWithin (depth + 5) :=
    .array (List.forall_mem_map.mpr fun scenario listed =>
      ScenarioReport.toValue_exact (fits_of_mem passes fails scenario listed) depth)
  have code := session.code_fits
  apply Value.ExactWithin.object
  cases session.abort <;>
    simp [reports, Value.ExactWithin.string, countValue_exact passes, countValue_exact fails,
      countValue_exact code, Abort.toValue_exact]

theorem getLast?_block (opening closing : Char) (level : Nat) (elements : List (List Char)) :
    (Value.block opening closing level elements).getLast? = some closing := by
  unfold Value.block
  split
  next => rfl
  next => rw [← List.cons_append, List.getLast?_concat]

theorem parse_renderJson {session : SessionReport} (passes : session.passCount < 2 ^ 64)
    (fails : session.failCount < 2 ^ 64) :
    Json.parse (Utf8.encode session.renderJson.toList) = .ok session.toValue.ordered := by
  have feed : Blank ['\n'] := by simp [Blank, isSpace]
  have written : session.renderJson.toList = session.toValue.indented 0 ++ ['\n'] := by
    simp [renderJson, Value.indentedText]
  rw [written]
  exact (toValue_exact passes fails 121).parse_indented feed

/-- The JSON document of a report is a JSON text on lines of its own, from whose value the report
and its counts are read back, so no other report has the same document. -/
theorem renderJson_lossless (session : SessionReport) (passes : session.passCount < 2 ^ 64)
    (fails : session.failCount < 2 ^ 64) :
    (∃ body : String, session.renderJson = body ++ "\n" ∧ body.toList.getLast? ≠ some '\n') ∧
      (∃ value, Json.parse (Utf8.encode session.renderJson.toList) = .ok value ∧
        SessionReport.ofValue? value = some session ∧
        value.member? Value.natural? "pass_count" = some session.passCount ∧
        value.member? Value.natural? "fail_count" = some session.failCount ∧
        value.member? Value.natural? "exit_code" = some session.exitStatus.code) ∧
      ∀ other : SessionReport, other.passCount < 2 ^ 64 → other.failCount < 2 ^ 64 →
        other.renderJson = session.renderJson → other = session := by
  have parsed := parse_renderJson passes fails
  have stored := ofValue?_ordered (fits_of_mem passes fails)
  refine ⟨?_, ⟨session.toValue.ordered, parsed, stored, ?_, ?_, ?_⟩, ?_⟩
  · refine ⟨session.toValue.indentedText, rfl, ?_⟩
    rw [Value.indentedText, String.toList_ofList, toValue, Value.indented, getLast?_block]
    decide
  · simp [toValue, Value.member?_ordered, lookup_member, natural?_countValue passes]
  · simp [toValue, Value.member?_ordered, lookup_member, natural?_countValue fails]
  · simp [toValue, Value.member?_ordered, natural?_countValue session.code_fits]
  · intro other otherPasses otherFails same
    have otherParsed := parse_renderJson otherPasses otherFails
    rw [same, parsed, Except.ok.injEq] at otherParsed
    have otherStored := ofValue?_ordered (fits_of_mem otherPasses otherFails)
    rw [← otherParsed, stored, Option.some.injEq] at otherStored
    exact otherStored.symm

end SessionReport

theorem unevenReport_stored :
    let session : SessionReport :=
      ⟨"minor\"units", [⟨"all\norders", "/\\", ⟨[⟨"a\tb", false, some "got \x01"⟩, ⟨"", true, none⟩],
        18446744073709551615, 0⟩⟩], some ⟨.parse, "/", "no value"⟩⟩
    session.passCount < 2 ^ 64 ∧ session.failCount < 2 ^ 64 ∧
      ∃ value, Json.parse (Utf8.encode session.renderJson.toList) = .ok value ∧
        SessionReport.ofValue? value = some session := by
  intro session
  have passes : session.passCount < 2 ^ 64 := by decide
  have fails : session.failCount < 2 ^ 64 := by decide
  obtain ⟨_, ⟨value, parsed, stored, _⟩, _⟩ := session.renderJson_lossless passes fails
  exact ⟨passes, fails, value, parsed, stored⟩

end OrdersContract
