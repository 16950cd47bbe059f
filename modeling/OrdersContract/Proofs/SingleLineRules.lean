import OrdersContract.Contract.Preset
import OrdersContract.Proofs.SingleLines
import OrdersContract.Proofs.Trees

set_option autoImplicit false

namespace OrdersContract

open Contract Json Text

namespace Outcome

/-- A label and a detail of one line each; a failure has a detail and nothing else has. -/
structure FitsLines (outcome : Outcome) : Prop where
  label : OneLine outcome.label
  detail : ∀ detail, outcome.detail = some detail → OneLine detail
  told : outcome.detail.isSome = !outcome.passed

theorem fitsLines_check {label detail : String} (named : OneLine label) (told : OneLine detail)
    (passed : Bool) : (check label passed detail).FitsLines := by
  cases passed with
  | true => exact ⟨named, by simp [check, pass], rfl⟩
  | false => exact ⟨named, by simpa [check, fail] using told, rfl⟩

end Outcome

namespace ExchangeTerms

theorem fitLines (terms : ExchangeTerms) (response : Response) (requests : Nat) :
    ∀ outcome ∈ terms.outcomes response requests, outcome.FitsLines := by
  have texts : ∀ text ∈ ["HTTP status is ", "got ", "Content-Type is application/json",
      "data retrieved in exactly 1 HTTP request", " requests issued", "payload size is under ",
      " bytes", "body is ", " bytes (", " KiB)"], OneLine text := by decide
  simp only [List.forall_mem_cons] at texts
  have status (expected : Nat) : (statusOutcome expected response).FitsLines :=
    Outcome.fitsLines_check (by simp [texts]) (by simp [texts]) _
  have content : (contentOutcome response).FitsLines :=
    Outcome.fitsLines_check (by simp [texts]) (by simp [texts, oneLine_quoted]) _
  have one : (requestsOutcome requests).FitsLines :=
    Outcome.fitsLines_check (by simp [texts]) (by simp [texts]) _
  have payload (limit : Nat) : (payloadOutcome limit response).FitsLines :=
    Outcome.fitsLines_check (by simp [texts]) (by simp [texts, oneLine_twoPlaces]) _
  intro outcome member
  simp only [outcomes, List.mem_cons, List.mem_append, List.mem_ite_nil_right, List.not_mem_nil,
    or_false, Option.mem_toList, Option.map_eq_some_iff] at member
  rcases member with rfl | (⟨_, rfl⟩ | ⟨_, rfl⟩) | ⟨limit, _, rfl⟩
  · exact status _
  · exact content
  · exact one
  · exact payload limit

end ExchangeTerms

namespace Rule

def TellsInLine (rule : Rule) : Prop :=
  ∃ detail, rule.detail = some detail ∧ ∀ node, OneLine (detail node)

theorem tellsInLine_ofField (label name : String) (requirement : Field → Bool) :
    (ofField label name requirement).TellsInLine := by
  refine ⟨_, rfl, fun node => ?_⟩
  have got : OneLine "got " := by decide
  simp [got, Field.oneLine_shown]

theorem tellsInLine_withDetail {detail : Value → String} (whole : ∀ node, OneLine (detail node))
    (rule : Rule) : (rule.withDetail detail).TellsInLine :=
  ⟨detail, rfl, whole⟩

theorem fitsLines_of_mem_outcome? {rule : Rule} (named : OneLine rule.label)
    (tells : rule.TellsInLine) {node : Value} {path : Path} (placed : OneLine path.text)
    {outcome : Outcome} (made : outcome ∈ rule.outcome? node path) : outcome.FitsLines := by
  obtain ⟨detail, told, whole⟩ := tells
  have label : OneLine (rule.labelAt path) := by
    rw [OneLine, labelAt, String.toList_ofList]
    exact unbroken_putPlace placed named
  rw [outcome?, Option.mem_def, Option.ite_none_right_eq_some, Option.some.injEq] at made
  rw [← made.2, Rule.outcome]
  split
  next => exact ⟨label, by simp [Outcome.pass], rfl⟩
  next =>
    refine ⟨label, ?_, by simp [Outcome.fail, told]⟩
    simp [Outcome.fail, told, whole]

end Rule

structure RuleSet.FitsLines (ruleSet : RuleSet) : Prop where
  labels : ∀ rule ∈ ruleSet.root.allRules, OneLine rule.label
  names : ∀ name ∈ ruleSet.root.scopeNames, OneLine name
  details : ∀ rule ∈ ruleSet.root.allRules, rule.TellsInLine

theorem RuleSet.FitsLines.outcomes {ruleSet : RuleSet} (fits : ruleSet.FitsLines)
    (document : Value) : ∀ outcome ∈ (ruleSet.check document).outcomes, outcome.FitsLines := by
  intro outcome made
  obtain ⟨rule, listed, node, steps, named, own⟩ := Group.exists_rule_of_mem_outcomes made
  have placed : OneLine (Path.text ([] ++ steps)) :=
    Path.oneLine_text fun name member => fits.names name (named name member)
  exact Rule.fitsLines_of_mem_outcome? (fits.labels rule listed) (fits.details rule listed) placed own

namespace Contract

theorem hasOrders_tellsInLine : hasOrders.TellsInLine := by
  apply Rule.tellsInLine_withDetail
  intro root
  have got : OneLine "got " := by decide
  simp [got, Field.oneLine_kindName]

theorem displayInline_tellsInLine (fields : DisplayFields) : (displayInline fields).TellsInLine := by
  refine ⟨_, rfl, fun root => ?_⟩
  have marks : OneLine "missing display data at: " ∧ OneLine ", " := by decide
  have names : OneLine "orders" ∧ OneLine "items" := by decide
  have places : OneLine (", ".intercalate ((bareItems fields root).map itemPlace)) := by
    apply oneLine_intercalate marks.2
    refine List.forall_mem_map.mpr fun place _ => Path.oneLine_text ?_
    simp [names]
  simp [marks, places]

theorem oneLine_allowedDetail (name : String) {allowed : List String}
    (whole : ∀ text ∈ allowed, OneLine text) (node : Value) :
    OneLine (allowedDetail name allowed node) := by
  have marks : OneLine "got " ∧ OneLine ", expected one of: " ∧ OneLine ", " := by decide
  simp [allowedDetail, marks, Field.oneLine_shown, oneLine_intercalate marks.2.2 whole]

theorem MinorUnits.mandatory_tellsInLine (name : String) : (mandatory name).TellsInLine := by
  apply Rule.tellsInLine_withDetail
  intro node
  have texts : OneLine "got " ∧ OneLine "got undefined" := by decide
  cases held : node.get? name with
  | none => simp [texts]
  | some value => simp [texts, value.oneLine_text]

theorem MinorUnits.rules_fitsLines : MinorUnits.rules.FitsLines := by
  refine ⟨by decide, by decide, ?_⟩
  have status : ∀ node, OneLine (allowedDetail "status" statuses node) :=
    oneLine_allowedDetail "status" (by decide)
  simp [rules, Group.allRules, Group.allRulesOfAll, pagination, orders, items, inlineData,
    paginationFields, orderFields, itemFields, hasOrders_tellsInLine, displayInline_tellsInLine,
    mandatory_tellsInLine, Rule.tellsInLine_ofField, Rule.tellsInLine_withDetail status]

namespace MajorUnits

theorem pageBound_tellsInLine (limit : Nat) (what : String) : (pageBound limit what).TellsInLine := by
  refine ⟨_, rfl, fun root => ?_⟩
  have got : OneLine "got " := by decide
  simp [got]

theorem oneLine_shownAt (elements : List Value) (index : Nat) (field : String) :
    OneLine (shownAt elements index field) := by
  unfold shownAt
  split
  next => exact Field.oneLine_shown _
  next => decide

theorem orderedRule_tellsInLine (label : String) {collection field : String}
    (whole : OneLine collection ∧ OneLine field) (direction : Direction) :
    (orderedRule label collection field direction).TellsInLine := by
  refine ⟨_, rfl, fun node => ?_⟩
  have marks : ∀ mark ∈ ["[", "].", "=", " follows ", " are not sorted by ", " "], OneLine mark := by
    decide
  simp only [List.forall_mem_cons] at marks
  have named : OneLine direction.name := by cases direction <;> decide
  dsimp only
  split
  next => simp [whole, marks, oneLine_shownAt]
  next => simp [whole, marks, named]

theorem onCard_tellsInLine (field : String) {missing : String} (whole : OneLine missing)
    (requirement : Field → Bool) : (onCard field missing requirement).TellsInLine :=
  ⟨_, rfl, fun _ => whole⟩

theorem orderItems_tellInLine : ∀ rule ∈ orderItems.allRules, rule.TellsInLine := by
  have kind : ∀ order : Value, OneLine ("got " ++ (order.field "items").kindName) := by
    have got : OneLine "got " := by decide
    simp [got, Field.oneLine_kindName]
  have count : ∀ order : Value, OneLine ("item_count=" ++ (order.field "item_count").shown ++
      " but items.length=" ++ decimalText ((order.length? "items").getD 0)) := by
    have marks : OneLine "item_count=" ∧ OneLine " but items.length=" := by decide
    simp [marks, Field.oneLine_shown]
  have empty : OneLine "items array is empty" := by decide
  have sorted := orderedRule_tellsInLine (here ".items sorted by unit_price descending")
    (show OneLine "items" ∧ OneLine "unit_price" by decide) .descending
  have cards : OneLine "missing thumbnail for card" ∧ OneLine "missing product name for card" := by
    decide
  simp only [orderItems, itemFields, filledText, Group.allRules, Group.allRulesOfAll,
    Option.toList_some, Option.toList_none, List.append_nil, List.nil_append, List.cons_append,
    List.forall_mem_cons]
  exact ⟨Rule.tellsInLine_withDetail kind _, ⟨_, rfl, fun _ => empty⟩, ⟨_, rfl, count⟩, sorted,
    onCard_tellsInLine _ cards.1 _, onCard_tellsInLine _ cards.2 _,
    by simp [Rule.tellsInLine_ofField]⟩

theorem paginationGate_tellsInLine : paginationGate.TellsInLine := by
  apply Rule.tellsInLine_withDetail
  intro root
  have got : OneLine "got " := by decide
  simp [got, Field.oneLine_kindName]

theorem plainRules_fitsLines : plainRules.FitsLines := by
  refine ⟨by decide +kernel, by decide, ?_⟩
  have status : ∀ node, OneLine (allowedDetail "status" statuses node) :=
    oneLine_allowedDetail "status" (by decide)
  have empty : Rule.TellsInLine
      { label := "orders array is non-empty"
        evaluate := fun root => (root.length? "orders").any (0 < ·)
        detail := some fun _ => "no orders returned" } :=
    ⟨_, rfl, fun _ => by decide⟩
  have items := orderItems_tellInLine
  have below : orders.allRules = orders.rules ++ orderItems.allRules := by
    simp [orders, Group.allRules, Group.allRulesOfAll, Group.rules]
  have fields : ∀ rule ∈ orders.rules, rule.TellsInLine := by
    simp [orders, Group.rules, filledText, Rule.tellsInLine_ofField,
      Rule.tellsInLine_withDetail status]
  simp only [plainRules, Group.allRules, Group.allRulesOfAll, Option.toList_some, below,
    List.append_nil, List.cons_append, List.nil_append, List.forall_mem_cons,
    List.forall_mem_append]
  refine ⟨hasOrders_tellsInLine, empty, pageBound_tellsInLine _ _, ⟨fields, items⟩, ?_, ?_⟩
  · simp [pagination, Group.allRules, Group.allRulesOfAll, paginationGate_tellsInLine,
      Rule.tellsInLine_ofField]
  · simp [inlineData, Group.allRules, Group.allRulesOfAll, displayInline_tellsInLine]

theorem pageRules_fitsLines : (pageRules pagedSize pagedSort).FitsLines := by
  refine ⟨by decide +kernel, by decide, ?_⟩
  have named : sortOrder? pagedSort = some ("total_amount", .descending) := by decide
  have sorted : (ordersSorted "total_amount" .descending).TellsInLine :=
    orderedRule_tellsInLine _ (by decide) _
  simp [pageRules, named, paginationEcho, Group.allRules, Group.allRulesOfAll, sorted,
    hasOrders_tellsInLine, pageBound_tellsInLine, paginationGate_tellsInLine,
    Rule.tellsInLine_ofField]

theorem statusRules_fitsLines : (statusRules filterStatus).FitsLines := by
  refine ⟨by decide, by decide, ?_⟩
  have marks : ∀ mark ∈ ["found orders with other statuses: ", ", ", "orders[", "].status="],
      OneLine mark := by decide
  simp only [List.forall_mem_cons] at marks
  simp only [statusRules, Group.allRules, Group.allRulesOfAll, Option.toList_some, List.append_nil,
    List.cons_append, List.nil_append, List.forall_mem_cons]
  refine ⟨hasOrders_tellsInLine, ⟨_, rfl, fun root => ?_⟩, by simp⟩
  rw [oneLine_append_iff]
  refine ⟨marks.1, oneLine_intercalate marks.2.1 (List.forall_mem_map.mpr fun other _ => ?_)⟩
  simp [marks, Field.oneLine_shown]

end MajorUnits

end Contract

structure Scenario.FitsLines (scenario : Scenario) : Prop where
  name : OneLine scenario.name
  rules : scenario.rules.FitsLines

theorem Scenario.FitsLines.outcomes {scenario : Scenario} (fits : scenario.FitsLines)
    (response : Response) (requests : Nat) (document : Except ReadError Value) :
    ∀ outcome ∈ scenario.outcomes response requests document, outcome.FitsLines := by
  simp only [Scenario.outcomes, List.forall_mem_append]
  refine ⟨scenario.exchange.fitLines response requests, ?_⟩
  cases document with
  | ok document => exact fits.rules.outcomes document
  | error error =>
    have texts : OneLine "response body is valid JSON" ∧ OneLine "parse error: " := by decide
    intro outcome member
    obtain rfl := List.mem_singleton.mp member
    refine ⟨texts.1, ?_, rfl⟩
    simp [Scenario.parseFailure, Outcome.fail, texts, error.oneLine_message]

theorem Preset.scenarios_fitLines (preset : Preset) (payloadLimit : Nat) :
    ∀ scenario ∈ preset.scenarios payloadLimit, scenario.FitsLines := by
  cases preset with
  | minorUnits =>
    simp only [Preset.scenarios, MinorUnits.scenarios, List.forall_mem_cons]
    have name : OneLine "Above-the-fold request" := by decide
    exact ⟨⟨name, MinorUnits.rules_fitsLines⟩, by simp⟩
  | majorUnits =>
    simp only [Preset.scenarios, MajorUnits.scenarios, List.forall_mem_cons]
    exact ⟨⟨by decide, MajorUnits.plainRules_fitsLines⟩,
      ⟨by decide +kernel, MajorUnits.pageRules_fitsLines⟩,
      ⟨by decide, MajorUnits.statusRules_fitsLines⟩, by simp⟩

end OrdersContract
