import Mathlib.Algebra.Ring.Nat
import OrdersContract.Report.Rendered
import OrdersContract.Text.Pieces

set_option autoImplicit false

namespace OrdersContract

open Json Text

/-- The last lines of a text that has others before them. -/
def EndsInLines (lines : List String) (text : String) : Prop :=
  ∃ start : String, text = start ++ "\n" ++ String.join (lines.map (· ++ "\n"))

theorem endsInLines_iff (lines : List String) (text : String) :
    EndsInLines lines text ↔
      '\n' :: lines.flatMap (fun line => line.toList ++ ['\n']) <:+ text.toList := by
  have joined : (String.join (lines.map (· ++ "\n"))).toList =
      lines.flatMap fun line => line.toList ++ ['\n'] := by
    simp [String.toList_join, List.flatMap_map]
  constructor
  · rintro ⟨start, rfl⟩
    exact ⟨start.toList, by simp [joined]⟩
  · rintro ⟨start, same⟩
    refine ⟨.ofList start, ?_⟩
    rw [← String.toList_inj, ← same]
    simp [joined]

-- A line is what stands between two line feeds, so only one can stand in front of the same lines.
theorem endsInLines_unique {line other : String} {rest : List String} {text : String}
    (whole : '\n' ∉ line.toList) (otherWhole : '\n' ∉ other.toList)
    (ends : EndsInLines (line :: rest) text) (otherEnds : EndsInLines (other :: rest) text) :
    line = other := by
  obtain ⟨start, same⟩ := (endsInLines_iff _ _).mp ends
  obtain ⟨otherStart, otherSame⟩ := (endsInLines_iff _ _).mp otherEnds
  have upTo : start ++ '\n' :: line.toList = otherStart ++ '\n' :: other.toList := by
    have both := same.trans otherSame.symm
    simpa only [List.flatMap_cons, ← List.cons_append, ← List.append_assoc,
      List.append_cancel_right_eq] using both
  have reversed : line.toList.reverse ++ '\n' :: start.reverse =
      other.toList.reverse ++ '\n' :: otherStart.reverse := by
    simpa using congrArg List.reverse upTo
  have lineCut : cut? '\n' (line.toList.reverse ++ '\n' :: start.reverse) =
      some (line.toList.reverse, start.reverse) := cut?_append (by simpa using whole) _
  have otherCut : cut? '\n' (other.toList.reverse ++ '\n' :: otherStart.reverse) =
      some (other.toList.reverse, otherStart.reverse) := cut?_append (by simpa using otherWhole) _
  rw [reversed, otherCut] at lineCut
  simpa [String.toList_inj] using (congrArg Prod.fst (Option.some.inj lineCut)).symm

theorem EndsInLines.tail {line : String} {rest : List String} {text : String}
    (ends : EndsInLines (line :: rest) text) : EndsInLines rest text := by
  obtain ⟨start, rfl⟩ := ends
  exact ⟨start ++ "\n" ++ line, by simp [String.join_cons, String.append_assoc]⟩

theorem endsInLines_join {before : List String} (others : before ≠ []) (lines : List String) :
    EndsInLines lines (String.join ((before ++ lines).map (· ++ "\n"))) := by
  obtain ⟨start, last, rfl⟩ : ∃ start last, before = start ++ [last] :=
    ⟨_, _, (List.dropLast_concat_getLast others).symm⟩
  refine ⟨String.join (start.map (· ++ "\n")) ++ last, ?_⟩
  simp [String.join_append, String.join_cons, String.append_assoc]

namespace Json

theorem separated_append (separator : List Char) {front : List (List Char)} (filled : front ≠ [])
    (back : List (List Char)) :
    separated separator (front ++ back) =
      separated separator front ++ back.flatMap (separator ++ ·) := by
  cases front with
  | nil => contradiction
  | cons first rest => simp [separated]

namespace Value

-- Where an object has other members before them, its last members stand on lines of their own.
theorem indented_object_append (level : Nat) (front back : List (String × Value))
    (others : front ≠ []) :
    ∃ start, (object (front ++ back)).indented level =
      start ++ (back.flatMap (fun member =>
        ',' :: (lineBreak (level + 1) ++ indentedMember (level + 1) member)) ++
        (lineBreak level ++ ['\x7d'])) := by
  have written : front.map (indentedMember (level + 1)) ≠ [] := by simpa using others
  refine ⟨'\x7b' :: (lineBreak (level + 1) ++ separated (',' :: lineBreak (level + 1))
    (front.map (indentedMember (level + 1)))), ?_⟩
  rw [indented, block, indentedMembers_eq_map, List.map_append, separated_append _ written]
  simp [others, List.flatMap_map]

end Value

end Json

namespace SessionReport

theorem renderText_endsInLines (session : SessionReport) :
    EndsInLines
      ["RESULTS: " ++ decimalText session.passCount ++ " passed, " ++
          decimalText session.failCount ++ " failed",
        "OVERALL: " ++ if session.passed then "PASS" else "FAIL"] session.renderText :=
  endsInLines_join (by simp) _

theorem passed_iff_renderText (session : SessionReport) :
    session.passed = true ↔ EndsInLines ["OVERALL: PASS"] session.renderText := by
  have ends := session.renderText_endsInLines.tail
  cases passed : session.passed with
  | true => simpa [passed] using ends
  | false =>
    simp only [Bool.false_eq_true, false_iff]
    intro otherEnds
    have same := endsInLines_unique (by decide +kernel) (by decide +kernel) otherEnds
      (by simpa [passed] using ends : EndsInLines ["OVERALL: FAIL"] session.renderText)
    exact absurd same (by decide +kernel)

theorem code_le_two (session : SessionReport) : session.exitStatus.code ≤ 2 := by
  cases session.exitStatus <;> simp [ExitStatus.code]

theorem code_fits (session : SessionReport) : session.exitStatus.code < 2 ^ 64 :=
  Nat.lt_of_le_of_lt session.code_le_two (by decide)

theorem countValue_of_lt {count : Nat} (small : count < 2 ^ 64) :
    ∃ n : Integer, n.val = count ∧ countValue count = .number (.integer n) := by
  have fits : -0x8000000000000000 ≤ (count : Int) ∧ (count : Int) < 0x10000000000000000 := by
    omega
  refine ⟨⟨count, fits.1, fits.2⟩, rfl, ?_⟩
  rw [countValue, Integer.ofInt?_of_fits fits]

theorem indented_countValue (level : Nat) {count : Nat} (small : count < 2 ^ 64) :
    (countValue count).indented level = decimal count := by
  obtain ⟨n, exact, whole⟩ := countValue_of_lt small
  rw [whole]
  simp [Value.indented, Numeric.chars, Integer.chars, exact]

theorem indented_counts (front : List (String × Value)) (others : front ≠ [])
    (passes fails code : Value) :
    ∃ start, (Value.object (front ++
        [("pass_count", passes), ("fail_count", fails), ("exit_code", code)])).indented 0 =
      start ++ "\n  \"pass_count\": ".toList ++ passes.indented 1 ++
        ",\n  \"fail_count\": ".toList ++ fails.indented 1 ++
        ",\n  \"exit_code\": ".toList ++ code.indented 1 ++ "\n\x7d".toList := by
  have keys : quotedChars "pass_count" = "\"pass_count\"".toList ∧
      quotedChars "fail_count" = "\"fail_count\"".toList ∧
      quotedChars "exit_code" = "\"exit_code\"".toList := by
    decide +kernel
  obtain ⟨start, written⟩ := Value.indented_object_append 0 front
    [("pass_count", passes), ("fail_count", fails), ("exit_code", code)] others
  refine ⟨start ++ [','], ?_⟩
  rw [written]
  simp [Value.indentedMember, keys, Value.lineBreak]

theorem renderJson_toList (session : SessionReport) :
    ∃ start, session.renderJson.toList =
      start ++ "\n  \"pass_count\": ".toList ++ (countValue session.passCount).indented 1 ++
        ",\n  \"fail_count\": ".toList ++ (countValue session.failCount).indented 1 ++
        ",\n  \"exit_code\": ".toList ++ (countValue session.exitStatus.code).indented 1 ++
        "\n\x7d".toList ++ ['\n'] := by
  obtain ⟨start, written⟩ := indented_counts
    ([("contract", .string session.contract),
        ("scenarios", .array (session.scenarios.map ScenarioReport.toValue))] ++
      (session.abort.map fun abort => ("abort", abort.toValue)).toList) (by simp)
    (countValue session.passCount) (countValue session.failCount)
    (countValue session.exitStatus.code)
  refine ⟨start, ?_⟩
  rw [← toValue] at written
  rw [renderJson, String.toList_append, Value.indentedText, String.toList_ofList, written]
  simp

theorem renderJson_endsInCode (session : SessionReport) :
    EndsInLines ["  \"exit_code\": " ++ decimalText session.exitStatus.code, "\x7d"]
      session.renderJson := by
  obtain ⟨start, written⟩ := session.renderJson_toList
  rw [endsInLines_iff, written, indented_countValue 1 session.code_fits]
  refine ⟨start ++ "\n  \"pass_count\": ".toList ++ (countValue session.passCount).indented 1 ++
    ",\n  \"fail_count\": ".toList ++ (countValue session.failCount).indented 1 ++ [','], ?_⟩
  simp [decimalText]

theorem code_eq_zero_iff_renderJson (session : SessionReport) :
    session.exitStatus.code = 0 ↔ EndsInLines ["  \"exit_code\": 0", "\x7d"] session.renderJson := by
  have ends := session.renderJson_endsInCode
  generalize session.exitStatus = status at ends ⊢
  have whole : '\n' ∉ ("  \"exit_code\": " ++ decimalText status.code).toList := by
    cases status <;> decide +kernel
  have zeroLine : "  \"exit_code\": " ++ decimalText 0 = "  \"exit_code\": 0" := by
    decide +kernel
  constructor
  · intro clean
    rwa [clean, zeroLine] at ends
  · intro zeroEnds
    have same := endsInLines_unique whole (by decide +kernel) ends zeroEnds
    revert same
    cases status <;> decide +kernel

theorem renderJson_endsInLines (session : SessionReport)
    (small : session.passCount + session.failCount < 2 ^ 64) :
    EndsInLines
      ["  \"pass_count\": " ++ decimalText session.passCount ++ ",",
        "  \"fail_count\": " ++ decimalText session.failCount ++ ",",
        "  \"exit_code\": " ++ decimalText session.exitStatus.code, "\x7d"] session.renderJson := by
  have passesSmall : session.passCount < 2 ^ 64 := by omega
  have failsSmall : session.failCount < 2 ^ 64 := by omega
  obtain ⟨start, written⟩ := session.renderJson_toList
  rw [endsInLines_iff, written, indented_countValue 1 passesSmall,
    indented_countValue 1 failsSmall, indented_countValue 1 session.code_fits]
  exact ⟨start, by simp [decimalText]⟩

end SessionReport

end OrdersContract
