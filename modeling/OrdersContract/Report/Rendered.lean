import OrdersContract.Json.Written
import OrdersContract.Report.Session

set_option autoImplicit false

namespace OrdersContract

open Json Text

inductive OutputFormat where
  | text
  | json
deriving DecidableEq

namespace Outcome

def lines (outcome : Outcome) : List String :=
  if outcome.passed then ["  PASS: " ++ outcome.label]
  else
    ("  FAIL: " ++ outcome.label) ::
      (outcome.detail.map ("        " ++ ·)).toList

def toValue (outcome : Outcome) : Value :=
  .object ([("label", .string outcome.label), ("passed", .bool outcome.passed)] ++
    (outcome.detail.map fun detail => ("detail", Value.string detail)).toList)

end Outcome

def ScenarioReport.lines (index : Nat) (scenario : ScenarioReport) : List String :=
  ["", "[Scenario " ++ decimalText (index + 1) ++ "] " ++ scenario.name,
    "  GET " ++ scenario.target] ++ scenario.report.outcomes.flatMap Outcome.lines

def Abort.line (abort : Abort) : String :=
  match abort.kind with
  | .transport => "FATAL: could not reach " ++ abort.target ++ ": " ++ abort.message
  | .parse =>
    "ABORTED: response from " ++ abort.target ++ " is not valid JSON: " ++ abort.message

-- A count as a number; one that fits no word is a floating-point number.
def countValue (count : Nat) : Value :=
  match Integer.ofInt? count with
  | some n => .number (.integer n)
  | none => .number (.double (.ofNat count))

def ScenarioReport.toValue (scenario : ScenarioReport) : Value :=
  .object
    [("name", .string scenario.name), ("target", .string scenario.target),
      ("report", .object
        [("outcomes", .array (scenario.report.outcomes.map Outcome.toValue)),
          ("pass_count", countValue scenario.report.passCount),
          ("fail_count", countValue scenario.report.failCount)])]

def Abort.toValue (abort : Abort) : Value :=
  .object
    [("kind", .string abort.kind.name), ("target", .string abort.target),
      ("message", .string abort.message)]

namespace SessionReport

def lines (session : SessionReport) : List String :=
  ("Contract: " ++ session.contract) ::
    (session.scenarios.mapIdx ScenarioReport.lines).flatten ++
    [""] ++ (session.abort.map Abort.line).toList ++
    ["RESULTS: " ++ decimalText session.passCount ++ " passed, " ++
        decimalText session.failCount ++ " failed",
      "OVERALL: " ++ if session.passed then "PASS" else "FAIL"]

def renderText (session : SessionReport) : String :=
  String.join (session.lines.map (· ++ "\n"))

def toValue (session : SessionReport) : Value :=
  .object
    ([("contract", .string session.contract),
        ("scenarios", .array (session.scenarios.map ScenarioReport.toValue))] ++
      (session.abort.map fun abort => ("abort", abort.toValue)).toList ++
      [("pass_count", countValue session.passCount),
        ("fail_count", countValue session.failCount),
        ("exit_code", countValue session.exitStatus.code)])

def renderJson (session : SessionReport) : String := session.toValue.indentedText ++ "\n"

def render (format : OutputFormat) (session : SessionReport) : String :=
  match format with
  | .text => session.renderText
  | .json => session.renderJson

end SessionReport

end OrdersContract
