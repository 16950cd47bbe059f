import OrdersContract.Report.Outcome

set_option autoImplicit false

namespace OrdersContract

structure ScenarioReport where
  name : String
  target : String
  report : Report
deriving DecidableEq

inductive AbortKind where
  | transport
  | parse
deriving DecidableEq

structure Abort where
  kind : AbortKind
  target : String
  message : String
deriving DecidableEq

structure SessionReport where
  contract : String
  scenarios : List ScenarioReport
  abort : Option Abort
deriving DecidableEq

inductive ExitStatus where
  | allPassed
  | checksFailed
  | noResponse
deriving DecidableEq

def ExitStatus.code : ExitStatus → Nat
  | allPassed => 0
  | checksFailed => 1
  | noResponse => 2

def AbortKind.name : AbortKind → String
  | transport => "transport"
  | parse => "parse"

namespace SessionReport

def passCount (session : SessionReport) : Nat :=
  session.scenarios.foldr (fun scenario total => scenario.report.passCount + total) 0

def failCount (session : SessionReport) : Nat :=
  session.scenarios.foldr (fun scenario total => scenario.report.failCount + total) 0

def passed (session : SessionReport) : Bool := session.abort.isNone && session.failCount == 0

def exitStatus (session : SessionReport) : ExitStatus :=
  match session.abort.map Abort.kind with
  | some .transport => .noResponse
  | some .parse => .checksFailed
  | none => if session.failCount = 0 then .allPassed else .checksFailed

end SessionReport

end OrdersContract
