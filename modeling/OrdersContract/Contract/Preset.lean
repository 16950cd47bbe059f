import OrdersContract.Contract.MajorUnits
import OrdersContract.Contract.MinorUnits
import OrdersContract.Session.Basic
import OrdersContract.Text.Blank

set_option autoImplicit false

namespace OrdersContract

open Contract

inductive Preset where
  | minorUnits
  | majorUnits
deriving DecidableEq

namespace Preset

def all : List Preset := [minorUnits, majorUnits]

def default : Preset := minorUnits

def name : Preset → String
  | minorUnits => "minor-units"
  | majorUnits => "major-units"

def ofName? (text : String) : Option Preset := all.find? (·.name == Text.trim text)

def unknownMessage (text : String) : String :=
  "unknown contract preset " ++ Text.quoted text ++
    " (expected one of: minor-units, major-units)"

end Preset

namespace Contract

def usualPayloadLimit : Nat := 50 * 1024

def MinorUnits.scenarios (payloadLimit : Nat) : List Scenario :=
  [{ name := "Above-the-fold request"
     query := []
     exchange := { oneRequest := true, payloadLimit := some payloadLimit }
     rules := MinorUnits.rules }]

namespace MajorUnits

def pagedSize : Nat := 5
def pagedSort : String := "total_amount:desc"
def filterStatus : String := "shipped"

def exchange : ExchangeTerms := { jsonContent := true }

def scenarios : List Scenario :=
  [{ name := "Default request (no params)"
     query := []
     exchange
     rules := plainRules },
    { name := "Paged and sorted (page=1, page_size=" ++ Text.decimalText pagedSize ++ ", sort=" ++
        pagedSort ++ ")"
      query := [("page", "1"), ("page_size", Text.decimalText pagedSize), ("sort", pagedSort)]
      exchange
      rules := pageRules pagedSize pagedSort },
    { name := "Status filter (status=" ++ filterStatus ++ ")"
      query := [("status", filterStatus)]
      exchange
      rules := statusRules filterStatus }]

end MajorUnits

end Contract

def Preset.scenarios (payloadLimit : Nat) : Preset → List Scenario
  | minorUnits => MinorUnits.scenarios payloadLimit
  | majorUnits => MajorUnits.scenarios

end OrdersContract
