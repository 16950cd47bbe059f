set_option autoImplicit false

namespace OrdersContract

structure Outcome where
  label : String
  passed : Bool
  detail : Option String
deriving DecidableEq

namespace Outcome

def pass (label : String) : Outcome := ⟨label, true, none⟩

def fail (label : String) (detail : Option String) : Outcome := ⟨label, false, detail⟩

-- Keeps the detail of a failure alone.
def check (label : String) (passed : Bool) (detail : String) : Outcome :=
  if passed then pass label else fail label (some detail)

@[simp] theorem check_label (label : String) (passed : Bool) (detail : String) :
    (check label passed detail).label = label := by
  cases passed <;> rfl

@[simp] theorem check_passed (label : String) (passed : Bool) (detail : String) :
    (check label passed detail).passed = passed := by
  cases passed <;> rfl

end Outcome

structure Report where
  outcomes : List Outcome
  passCount : Nat
  failCount : Nat
deriving DecidableEq

namespace Report

def ofOutcomes (outcomes : List Outcome) : Report :=
  let passed := outcomes.countP Outcome.passed
  ⟨outcomes, passed, outcomes.length - passed⟩

def failures (report : Report) : List Outcome := report.outcomes.filter (!·.passed)

def outcome? (label : String) (report : Report) : Option Outcome :=
  report.outcomes.find? (·.label == label)

theorem ofOutcomes_failCount (outcomes : List Outcome) :
    (ofOutcomes outcomes).failCount = outcomes.countP (!·.passed) := by
  have total := List.length_eq_countP_add_countP Outcome.passed (l := outcomes)
  simp only [ofOutcomes]
  simp only [Bool.not_eq_true, Bool.decide_eq_false] at total
  omega

end Report

end OrdersContract
