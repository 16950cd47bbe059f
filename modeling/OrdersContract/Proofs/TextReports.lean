import Mathlib.Data.Set.Function
import OrdersContract.Proofs.Decimals
import OrdersContract.Proofs.TextLines
import OrdersContract.Proofs.Verdicts

/-!
What the text of a session report tells. Nothing in it is escaped: how a line begins says what the
line is about, as long as nothing that is put into the text breaks a line.
-/

set_option autoImplicit false

namespace OrdersContract

open Text

namespace Outcome

def headMark (passed : Bool) : String := if passed then "  PASS: " else "  FAIL: "

def told (outcome : Outcome) : Option String := if outcome.passed then none else outcome.detail

theorem lines_eq (outcome : Outcome) :
    outcome.lines = (headMark outcome.passed ++ outcome.label) ::
      (outcome.told.map ("        " ++ ·)).toList := by
  cases passed : outcome.passed <;> simp [lines, headMark, told, passed]

theorem headMark_apart {passed other : Bool} (differ : passed ≠ other) :
    Apart (headMark passed) (headMark other) := by
  cases passed <;> cases other
  case false.false => exact absurd rfl differ
  case false.true => decide
  case true.false => decide
  case true.true => exact absurd rfl differ

theorem detail_apart_headMark (passed : Bool) : Apart "        " (headMark passed) := by
  cases passed <;> decide

theorem lines_append_ne_blank (outcome : Outcome) (rest more : List String) :
    outcome.lines ++ rest ≠ "" :: more := by
  rw [lines_eq]
  intro same
  have empty := (List.cons.inj same).1
  have begun := begins_append (headMark outcome.passed) outcome.label
  rw [empty, (detail_apart_headMark outcome.passed).symm.begins_empty] at begun
  exact Bool.noConfusion begun

-- Nothing that follows the lines of an outcome looks like a detail.
def NoDetailNext (lines : List String) : Prop := begins "        " (lines.headD "") = false

theorem noDetailNext_lines_append (outcome : Outcome) (rest : List String) :
    NoDetailNext (outcome.lines ++ rest) := by
  rw [lines_eq]
  exact (detail_apart_headMark outcome.passed).begins_append outcome.label

theorem detail_append_inj {detail other : Option String} {rest others : List String}
    (clear : NoDetailNext rest) (alsoClear : NoDetailNext others)
    (same : (detail.map ("        " ++ ·)).toList ++ rest =
      (other.map ("        " ++ ·)).toList ++ others) : detail = other ∧ rest = others := by
  have detailed (told : String) (more : List String) :
      ¬ NoDetailNext (("        " ++ told) :: more) := by
    simp [NoDetailNext]
  cases detail with
  | none =>
    cases other with
    | none => exact ⟨rfl, same⟩
    | some told =>
      obtain rfl : rest = ("        " ++ told) :: others := same
      exact absurd clear (detailed told others)
  | some told =>
    cases other with
    | none =>
      obtain rfl : ("        " ++ told) :: rest = others := same
      exact absurd alsoClear (detailed told rest)
    | some alsoTold =>
      obtain ⟨line, remaining⟩ := List.cons.inj same
      exact ⟨congrArg some ((String.append_right_inj _).mp line), remaining⟩

/-- An outcome that passed has no detail, for the text would not tell it. -/
def HidesNothing (outcome : Outcome) : Prop := outcome.passed = true → outcome.detail = none

theorem HidesNothing.told_eq {outcome : Outcome} (hides : outcome.HidesNothing) :
    outcome.told = outcome.detail := by
  rw [told]
  split
  next passed => exact (hides passed).symm
  next => rfl

theorem lines_append_inj {outcome other : Outcome} (hides : outcome.HidesNothing)
    (alsoHides : other.HidesNothing) {rest others : List String} (clear : NoDetailNext rest)
    (alsoClear : NoDetailNext others) (same : outcome.lines ++ rest = other.lines ++ others) :
    outcome = other ∧ rest = others := by
  rw [lines_eq, lines_eq, hides.told_eq, alsoHides.told_eq] at same
  obtain ⟨head, further⟩ := List.cons.inj same
  obtain ⟨detail, remaining⟩ := detail_append_inj clear alsoClear further
  have passed : outcome.passed = other.passed := by
    by_contra differ
    exact (headMark_apart differ).append_ne _ _ head
  rw [passed, String.append_right_inj] at head
  obtain ⟨label, verdict, said⟩ := outcome
  obtain ⟨rfl, rfl, rfl⟩ : label = other.label ∧ verdict = other.passed ∧ said = other.detail :=
    ⟨head, passed, detail⟩
  exact ⟨rfl, remaining⟩

theorem flatMap_lines_append_inj {outcomes others : List Outcome}
    (hide : ∀ outcome ∈ outcomes, outcome.HidesNothing)
    (alsoHide : ∀ outcome ∈ others, outcome.HidesNothing) {rest more : List String}
    (same : outcomes.flatMap lines ++ "" :: rest = others.flatMap lines ++ "" :: more) :
    outcomes = others ∧ rest = more := by
  have clear (outcomes : List Outcome) (rest : List String) :
      NoDetailNext (outcomes.flatMap lines ++ "" :: rest) := by
    cases outcomes with
    | nil => exact (detail_apart_headMark true).begins_empty
    | cons outcome further =>
      rw [List.flatMap_cons, List.append_assoc]
      exact noDetailNext_lines_append ..
  induction outcomes generalizing others with
  | nil =>
    cases others with
    | nil => exact ⟨rfl, (List.cons.inj same).2⟩
    | cons other further =>
      rw [List.flatMap_cons, List.append_assoc] at same
      exact absurd same.symm (lines_append_ne_blank _ _ _)
  | cons outcome further ih =>
    cases others with
    | nil =>
      rw [List.flatMap_cons, List.append_assoc] at same
      exact absurd same (lines_append_ne_blank _ _ _)
    | cons other remaining =>
      rw [List.forall_mem_cons] at hide alsoHide
      rw [List.flatMap_cons, List.flatMap_cons, List.append_assoc, List.append_assoc] at same
      obtain ⟨rfl, behind⟩ := lines_append_inj hide.1 alsoHide.1 (clear _ _) (clear _ _) same
      obtain ⟨rfl, remaining⟩ := ih hide.2 alsoHide.2 behind
      exact ⟨rfl, remaining⟩

theorem linesStarting_headMark (verdict : Bool) (outcome : Outcome) :
    linesStarting (headMark verdict) outcome.lines =
      if outcome.passed = verdict then [headMark verdict ++ outcome.label] else [] := by
  have detail : linesStarting (headMark verdict) (outcome.told.map ("        " ++ ·)).toList = [] := by
    cases outcome.told with
    | none => rfl
    | some told =>
      exact linesStarting_cons_of_not_begins
        ((detail_apart_headMark verdict).symm.begins_append told) []
  rw [lines_eq]
  by_cases same : outcome.passed = verdict
  next => rw [same, linesStarting_cons_of_begins (begins_append _ _), detail, if_pos rfl]
  next =>
    have other := (headMark_apart (Ne.symm same)).begins_append outcome.label
    rw [linesStarting_cons_of_not_begins other, detail, if_neg same]

theorem length_linesStarting_headMark (verdict : Bool) (outcomes : List Outcome) :
    (outcomes.flatMap fun outcome => linesStarting (headMark verdict) outcome.lines).length =
      outcomes.countP (·.passed == verdict) := by
  induction outcomes with
  | nil => rfl
  | cons outcome rest ih =>
    rw [List.flatMap_cons, List.length_append, ih, linesStarting_headMark, List.countP_cons,
      Nat.add_comm]
    by_cases same : outcome.passed = verdict <;> simp [same]

theorem linesStarting_of_apart {mark : String} (heads : ∀ passed, Apart mark (headMark passed))
    (detail : Apart mark "        ") (outcome : Outcome) : linesStarting mark outcome.lines = [] := by
  rw [lines_eq, linesStarting_cons_of_not_begins ((heads _).begins_append _)]
  cases outcome.told with
  | none => rfl
  | some told => exact linesStarting_cons_of_not_begins (detail.begins_append told) []

theorem unbroken_lines {outcome : Outcome} (label : '\n' ∉ outcome.label.toList)
    (detail : ∀ text ∈ outcome.detail, '\n' ∉ text.toList) :
    ∀ line ∈ outcome.lines, '\n' ∉ line.toList := by
  cases passed : outcome.passed <;> cases told : outcome.detail <;>
    simp_all [lines]

end Outcome

namespace ScenarioReport

structure IsWhole (scenario : ScenarioReport) : Prop where
  counted : scenario.report = .ofOutcomes scenario.report.outcomes
  hides : ∀ outcome ∈ scenario.report.outcomes, outcome.HidesNothing

theorem lines_append_inj {scenario other : ScenarioReport} {index : Nat} (whole : scenario.IsWhole)
    (alsoWhole : other.IsWhole) {rest more : List String}
    (same : scenario.lines index ++ "" :: rest = other.lines index ++ "" :: more) :
    scenario = other ∧ rest = more := by
  rw [lines, lines, List.append_assoc, List.append_assoc] at same
  simp only [List.cons_append, List.nil_append, List.cons.injEq, String.append_right_inj,
    true_and] at same
  obtain ⟨name, target, same⟩ := same
  obtain ⟨outcomes, remaining⟩ := Outcome.flatMap_lines_append_inj whole.hides alsoWhole.hides same
  have report : scenario.report = other.report := by
    rw [whole.counted, outcomes, ← alsoWhole.counted]
  obtain ⟨_, _, _⟩ := scenario
  obtain ⟨rfl, rfl, rfl⟩ : _ = other.name ∧ _ = other.target ∧ _ = other.report :=
    ⟨name, target, report⟩
  exact ⟨rfl, remaining⟩

end ScenarioReport

def scenarioLines : Nat → List ScenarioReport → List String
  | _, [] => []
  | index, scenario :: rest => scenario.lines index ++ scenarioLines (index + 1) rest

theorem flatten_mapIdx_lines (index : Nat) (scenarios : List ScenarioReport) :
    (scenarios.mapIdx fun i => ScenarioReport.lines (index + i)).flatten =
      scenarioLines index scenarios := by
  induction scenarios generalizing index with
  | nil => rfl
  | cons scenario rest ih =>
    rw [List.mapIdx_cons, List.flatten_cons, scenarioLines, ← ih (index + 1)]
    simp only [Nat.add_assoc, Nat.add_comm 1, Nat.add_zero]

-- What follows the blank line behind the last scenario does not look like one more.
def NoScenarioNext (lines : List String) : Prop := begins "[Scenario " (lines.headD "") = false

theorem scenarioLines_append_inj {scenarios others : List ScenarioReport} {index : Nat}
    (whole : ∀ scenario ∈ scenarios, scenario.IsWhole)
    (alsoWhole : ∀ scenario ∈ others, scenario.IsWhole) {rest more : List String}
    (last : NoScenarioNext rest) (alsoLast : NoScenarioNext more)
    (same : scenarioLines index scenarios ++ "" :: rest = scenarioLines index others ++ "" :: more) :
    scenarios = others ∧ rest = more := by
  have another {index : Nat} {scenario : ScenarioReport} {further lines : List String}
      (same : scenario.lines index ++ further = "" :: lines) : ¬ NoScenarioNext lines := by
    obtain rfl := (List.cons.inj same).2
    simp [NoScenarioNext, String.append_assoc]
  -- The lines behind a scenario begin with a blank one, be it the last or not.
  have blank (index : Nat) (scenarios : List ScenarioReport) (rest : List String) :
      ∃ behind, scenarioLines index scenarios ++ "" :: rest = "" :: behind := by
    cases scenarios with
    | nil => exact ⟨rest, rfl⟩
    | cons scenario further => exact ⟨_, rfl⟩
  induction scenarios generalizing others index with
  | nil =>
    cases others with
    | nil => exact ⟨rfl, (List.cons.inj same).2⟩
    | cons other further =>
      rw [scenarioLines, scenarioLines, List.append_assoc] at same
      exact absurd last (another same.symm)
  | cons scenario further ih =>
    cases others with
    | nil =>
      rw [scenarioLines, scenarioLines, List.append_assoc] at same
      exact absurd alsoLast (another same)
    | cons other remaining =>
      rw [List.forall_mem_cons] at whole alsoWhole
      obtain ⟨behind, spelled⟩ := blank (index + 1) further rest
      obtain ⟨alsoBehind, alsoSpelled⟩ := blank (index + 1) remaining more
      rw [scenarioLines, scenarioLines, List.append_assoc, List.append_assoc, spelled,
        alsoSpelled] at same
      obtain ⟨rfl, rfl⟩ := ScenarioReport.lines_append_inj whole.1 alsoWhole.1 same
      obtain ⟨rfl, behind_eq⟩ := ih whole.2 alsoWhole.2 (spelled.trans alsoSpelled.symm)
      exact ⟨rfl, behind_eq⟩

namespace Abort

theorem line_inj {abort other : Abort} (unspaced : ' ' ∉ abort.target.toList)
    (alsoUnspaced : ' ' ∉ other.target.toList) (same : abort.line = other.line) : abort = other := by
  have apart : Apart "FATAL: could not reach " "ABORTED: response from " := by decide
  obtain ⟨kind, target, message⟩ := abort
  obtain ⟨otherKind, otherTarget, otherMessage⟩ := other
  cases kind <;> cases otherKind <;> simp only [line, String.append_assoc] at same
  case transport.transport =>
    rw [String.append_right_inj] at same
    obtain ⟨rfl, rfl⟩ := append_mark_inj [':'] [] rfl (by decide) unspaced alsoUnspaced same
    rfl
  case transport.parse => exact absurd same (apart.append_ne _ _)
  case parse.transport => exact absurd same.symm (apart.append_ne _ _)
  case parse.parse =>
    rw [String.append_right_inj] at same
    obtain ⟨rfl, rfl⟩ := append_mark_inj [] _ rfl (by decide) unspaced alsoUnspaced same
    rfl

theorem begins_line {mark : String} (fatal : Apart mark "FATAL: could not reach ")
    (aborted : Apart mark "ABORTED: response from ") (abort : Abort) :
    begins mark abort.line = false := by
  obtain ⟨kind, target, message⟩ := abort
  cases kind <;> simp only [line, String.append_assoc]
  case transport => exact fatal.begins_append _
  case parse => exact aborted.begins_append _

end Abort

namespace SessionReport

def texts (session : SessionReport) : List String :=
  session.contract ::
    (session.scenarios.flatMap fun scenario =>
      scenario.name :: scenario.target ::
        scenario.report.outcomes.flatMap fun outcome => outcome.label :: outcome.detail.toList) ++
    session.abort.toList.flatMap fun abort => [abort.target, abort.message]

structure IsPlain (session : SessionReport) : Prop where
  unbroken : ∀ text ∈ session.texts, '\n' ∉ text.toList
  counted : session.Counted

structure IsWhole (session : SessionReport) : Prop extends session.IsPlain where
  details : ∀ scenario ∈ session.scenarios, ∀ outcome ∈ scenario.report.outcomes,
    outcome.passed = true → outcome.detail = none
  targets : ∀ abort, session.abort = some abort → ' ' ∉ abort.target.toList

def resultLine (session : SessionReport) : String :=
  "RESULTS: " ++ decimalText session.passCount ++ " passed, " ++
    decimalText session.failCount ++ " failed"

theorem begins_results (session : SessionReport) :
    begins "RESULTS: " session.resultLine = true := by
  rw [resultLine, String.append_assoc, String.append_assoc, String.append_assoc]
  exact begins_append _ _

theorem begins_resultLine {mark : String} (results : Apart mark "RESULTS: ")
    (session : SessionReport) : begins mark session.resultLine = false := by
  rw [resultLine, String.append_assoc, String.append_assoc, String.append_assoc]
  exact results.begins_append _

def closingLines (session : SessionReport) : List String :=
  (session.abort.map Abort.line).toList ++
    [session.resultLine, "OVERALL: " ++ if session.passed then "PASS" else "FAIL"]

theorem lines_eq (session : SessionReport) :
    session.lines = ("Contract: " ++ session.contract) ::
      (scenarioLines 0 session.scenarios ++ "" :: session.closingLines) := by
  have scenarios := flatten_mapIdx_lines 0 session.scenarios
  simp only [Nat.zero_add] at scenarios
  rw [lines, scenarios, closingLines, resultLine]
  simp

theorem noScenarioNext_closingLines (session : SessionReport) :
    NoScenarioNext session.closingLines := by
  have results : Apart "[Scenario " "RESULTS: " := by decide
  rw [NoScenarioNext, closingLines]
  cases session.abort with
  | none => exact session.begins_resultLine results
  | some abort => exact abort.begins_line (by decide) (by decide)

theorem abort_eq_of_closingLines {session other : SessionReport} (whole : session.IsWhole)
    (alsoWhole : other.IsWhole) (same : session.closingLines = other.closingLines) :
    session.abort = other.abort := by
  have results (session : SessionReport) (abort : Abort) : abort.line ≠ session.resultLine := by
    intro same
    have begun := session.begins_results
    rw [← same, abort.begins_line (by decide) (by decide)] at begun
    exact Bool.noConfusion begun
  rw [closingLines, closingLines] at same
  cases aborted : session.abort with
  | none =>
    cases alsoAborted : other.abort with
    | none => rfl
    | some abort =>
      rw [aborted, alsoAborted] at same
      exact absurd (List.cons.inj same).1.symm (results _ _)
  | some abort =>
    cases alsoAborted : other.abort with
    | none =>
      rw [aborted, alsoAborted] at same
      exact absurd (List.cons.inj same).1 (results _ _)
    | some alsoAbort =>
      rw [aborted, alsoAborted] at same
      rw [Abort.line_inj (whole.targets _ aborted) (alsoWhole.targets _ alsoAborted)
        (List.cons.inj same).1]

theorem lines_inj {session other : SessionReport} (whole : session.IsWhole)
    (alsoWhole : other.IsWhole) (same : session.lines = other.lines) : session = other := by
  have each {session : SessionReport} (whole : session.IsWhole) :
      ∀ scenario ∈ session.scenarios, scenario.IsWhole :=
    fun scenario reported => ⟨whole.counted scenario reported, whole.details scenario reported⟩
  rw [lines_eq, lines_eq] at same
  obtain ⟨contract, behind⟩ := List.cons.inj same
  rw [String.append_right_inj] at contract
  obtain ⟨scenarios, closing⟩ := scenarioLines_append_inj (each whole) (each alsoWhole)
    session.noScenarioNext_closingLines other.noScenarioNext_closingLines behind
  have abort := abort_eq_of_closingLines whole alsoWhole closing
  obtain ⟨_, _, _⟩ := session
  obtain ⟨rfl, rfl, rfl⟩ : _ = other.contract ∧ _ = other.scenarios ∧ _ = other.abort :=
    ⟨contract, scenarios, abort⟩
  rfl

/-- What the lines begin with that are not about an outcome and do not tell the counts. -/
def frameMarks : List String :=
  ["Contract: ", "[Scenario ", "  GET ", "FATAL: could not reach ", "ABORTED: response from ",
    "OVERALL: "]

theorem linesStarting_scenarioLines {mark : String} (scenario : Apart mark "[Scenario ")
    (get : Apart mark "  GET ") (index : Nat) (scenarios : List ScenarioReport) :
    linesStarting mark (scenarioLines index scenarios) =
      (scenarios.flatMap (·.report.outcomes)).flatMap fun outcome =>
        linesStarting mark outcome.lines := by
  induction scenarios generalizing index with
  | nil => rfl
  | cons own rest ih =>
    have heading : begins mark ("[Scenario " ++ decimalText (index + 1) ++ "] " ++ own.name) =
        false := by
      rw [String.append_assoc, String.append_assoc]
      exact scenario.begins_append _
    have header : linesStarting mark ["", "[Scenario " ++ decimalText (index + 1) ++ "] " ++ own.name,
        "  GET " ++ own.target] = [] := by
      rw [linesStarting_cons_of_not_begins scenario.begins_empty,
        linesStarting_cons_of_not_begins heading,
        linesStarting_cons_of_not_begins (get.begins_append _)]
      rfl
    rw [scenarioLines, linesStarting_append, ih, ScenarioReport.lines, linesStarting_append, header,
      linesStarting_flatMap, List.flatMap_cons, List.flatMap_append, List.nil_append]

theorem linesStarting_lines {mark : String} (frame : ∀ other ∈ frameMarks, Apart mark other)
    (session : SessionReport) :
    linesStarting mark session.lines =
      (session.outcomes.flatMap fun outcome => linesStarting mark outcome.lines) ++
        linesStarting mark [session.resultLine] := by
  simp only [frameMarks, List.forall_mem_cons] at frame
  obtain ⟨contract, scenario, get, fatal, aborted, overall, _⟩ := frame
  have abort : linesStarting mark (session.abort.map Abort.line).toList = [] := by
    cases session.abort with
    | none => rfl
    | some abort => exact linesStarting_cons_of_not_begins (abort.begins_line fatal aborted) []
  have verdict : linesStarting mark
      ["OVERALL: " ++ if session.passed then "PASS" else "FAIL"] = [] :=
    linesStarting_cons_of_not_begins (overall.begins_append _) []
  have last : linesStarting mark session.closingLines =
      linesStarting mark [session.resultLine] := by
    rw [closingLines, linesStarting_append, abort, List.nil_append, ← List.singleton_append,
      linesStarting_append, verdict, List.append_nil]
  rw [lines_eq, linesStarting_cons_of_not_begins (contract.begins_append _), linesStarting_append,
    linesStarting_scenarioLines scenario get, linesStarting_cons_of_not_begins contract.begins_empty,
    last, outcomes]

theorem length_linesStarting_headMark (verdict : Bool) (session : SessionReport) :
    (linesStarting (Outcome.headMark verdict) session.lines).length =
      session.outcomes.countP (·.passed == verdict) := by
  have frame : ∀ other ∈ frameMarks, Apart (Outcome.headMark verdict) other := by
    cases verdict <;> decide
  have results : Apart (Outcome.headMark verdict) "RESULTS: " := by
    cases verdict <;> decide
  have result : linesStarting (Outcome.headMark verdict) [session.resultLine] = [] :=
    linesStarting_cons_of_not_begins (session.begins_resultLine results) []
  rw [linesStarting_lines frame, result, List.append_nil, Outcome.length_linesStarting_headMark]

theorem linesStarting_results (session : SessionReport) :
    linesStarting "RESULTS: " session.lines = [session.resultLine] := by
  have outcomes : (session.outcomes.flatMap fun outcome =>
      linesStarting "RESULTS: " outcome.lines) = [] :=
    List.flatMap_eq_nil_iff.mpr fun outcome _ =>
      outcome.linesStarting_of_apart (by decide) (by decide)
  rw [linesStarting_lines (by decide), outcomes,
    linesStarting_cons_of_begins session.begins_results]
  rfl

theorem unbroken_scenarioLines {scenarios : List ScenarioReport}
    (unbroken : ∀ scenario ∈ scenarios, '\n' ∉ scenario.name.toList ∧ '\n' ∉ scenario.target.toList ∧
      ∀ outcome ∈ scenario.report.outcomes, '\n' ∉ outcome.label.toList ∧
        ∀ text ∈ outcome.detail, '\n' ∉ text.toList) (index : Nat) :
    ∀ line ∈ scenarioLines index scenarios, '\n' ∉ line.toList := by
  induction scenarios generalizing index with
  | nil => simp [scenarioLines]
  | cons scenario rest ih =>
    rw [List.forall_mem_cons] at unbroken
    obtain ⟨⟨name, target, outcomes⟩, others⟩ := unbroken
    have number := not_mem_decimalText (c := '\n') (by decide) (index + 1)
    rw [scenarioLines, ScenarioReport.lines, List.forall_mem_append, List.forall_mem_append]
    refine ⟨⟨?_, ?_⟩, ih others (index + 1)⟩
    · simp [name, target, number]
    · exact List.forall_mem_flatMap.mpr fun outcome listed =>
        Outcome.unbroken_lines (outcomes outcome listed).1 (outcomes outcome listed).2

theorem unbroken_closingLines {session : SessionReport}
    (unbroken : ∀ abort ∈ session.abort, '\n' ∉ abort.target.toList ∧ '\n' ∉ abort.message.toList) :
    ∀ line ∈ session.closingLines, '\n' ∉ line.toList := by
  have count := not_mem_decimalText (c := '\n') (by decide)
  have verdict : '\n' ∉ (if session.passed then "PASS" else "FAIL").toList := by
    split <;> decide
  rw [closingLines, List.forall_mem_append]
  constructor
  · intro line listed
    obtain ⟨abort, aborted, rfl⟩ := Option.map_eq_some_iff.mp (Option.mem_toList.mp listed)
    obtain ⟨target, message⟩ := unbroken abort aborted
    rw [Abort.line]
    split <;> simp [target, message]
  · simp [resultLine, count, verdict]

theorem unbroken_lines {session : SessionReport}
    (unbroken : ∀ text ∈ session.texts, '\n' ∉ text.toList) :
    ∀ line ∈ session.lines, '\n' ∉ line.toList := by
  simp only [texts, List.forall_mem_append, List.forall_mem_cons, List.forall_mem_flatMap,
    Option.mem_toList] at unbroken
  obtain ⟨⟨contract, scenarios⟩, abort⟩ := unbroken
  rw [lines_eq, List.forall_mem_cons, List.forall_mem_append, List.forall_mem_cons]
  refine ⟨by simp [contract], unbroken_scenarioLines scenarios 0, by simp,
    unbroken_closingLines fun abort' aborted => ?_⟩
  simpa using abort abort' aborted

theorem IsPlain.textLines_renderText {session : SessionReport} (plain : session.IsPlain) :
    textLines session.renderText = session.lines :=
  textLines_join (unbroken_lines plain.unbroken)

/--
The line about the results counts the lines of outcomes that passed and failed, if no text breaks a
line. The text tells a report in full if, besides, nothing passed with a detail and the target of an
end before time has no space: two such reports with one text are the same report.
-/
theorem renderText_tells :
    (∀ session : SessionReport, session.IsPlain →
      linesStarting "RESULTS: " (textLines session.renderText) =
        ["RESULTS: " ++
          decimalText (linesStarting "  PASS: " (textLines session.renderText)).length ++
          " passed, " ++
          decimalText (linesStarting "  FAIL: " (textLines session.renderText)).length ++
          " failed"]) ∧
    Set.InjOn SessionReport.renderText {session | session.IsWhole} := by
  constructor
  · intro session plain
    have passed := session.length_linesStarting_headMark true
    have failed := session.length_linesStarting_headMark false
    simp only [beq_true, beq_false] at passed failed
    rw [plain.textLines_renderText, linesStarting_results, resultLine,
      session.passCount_eq_countP plain.counted, session.failCount_eq_countP plain.counted,
      ← passed, ← failed]
    rfl
  · intro session whole other alsoWhole same
    apply lines_inj whole alsoWhole
    rw [← whole.textLines_renderText, same, alsoWhole.textLines_renderText]

/-- A session with texts that look like other lines, a scenario without outcomes, and a failure with
a given detail, which ended before time. -/
def mimicSession (detail : Option String) : SessionReport where
  contract := "[Scenario 1] "
  scenarios :=
    [⟨"RESULTS: 7 passed", "", .ofOutcomes [.pass "  FAIL: a", .fail "        b" detail]⟩,
      ⟨"", "  PASS: c", .ofOutcomes []⟩]
  abort := some ⟨.parse, "http://localhost/", " is not valid JSON: d"⟩

-- Of two sessions, one has a failure without a detail and the other one with an empty detail.
theorem mimicSession_told :
    (mimicSession none).IsWhole ∧ (mimicSession (some "")).IsWhole ∧
      linesStarting "RESULTS: " (textLines (mimicSession none).renderText) =
        ["RESULTS: 1 passed, 1 failed"] ∧
      (mimicSession none).renderText ≠ (mimicSession (some "")).renderText := by
  have whole (detail : Option String) (unbroken : ∀ text ∈ (mimicSession detail).texts,
      '\n' ∉ text.toList) : (mimicSession detail).IsWhole := by
    refine ⟨⟨unbroken, ?_⟩, ?_, ?_⟩
    · simp [Counted, mimicSession, Report.ofOutcomes]
    · simp [mimicSession, Report.ofOutcomes, Outcome.pass, Outcome.fail]
    · rintro abort ⟨⟩
      decide
  have undetailed := whole none (by decide)
  have empty := whole (some "") (by decide)
  obtain ⟨counts, tells⟩ := renderText_tells
  have text := undetailed.textLines_renderText
  have passed : (linesStarting "  PASS: " (mimicSession none).lines).length = 1 :=
    (mimicSession none).length_linesStarting_headMark true
  have failed : (linesStarting "  FAIL: " (mimicSession none).lines).length = 1 :=
    (mimicSession none).length_linesStarting_headMark false
  refine ⟨undetailed, empty, ?_, ?_⟩
  · rw [counts _ undetailed.toIsPlain, text, passed, failed]
    decide +kernel
  · intro same
    exact absurd (tells undetailed empty same) (by decide)

end SessionReport

end OrdersContract
