import OrdersContract.Proofs.ChangedOrders
import OrdersContract.Proofs.PathTexts

set_option autoImplicit false

namespace OrdersContract

open Json

namespace Json.Value

def step? (node : Value) : Step → Option Value
  | .field name => node.get? name
  | .index i => node.items?.bind (·[i]?)

/-- What a path leads to, also where that is null. -/
def foundAt? (path : Path) (root : Value) : Option Value := path.foldlM step? root

-- A walk does not enter what is null, so whatever it reaches is found.
theorem foundAt?_of_follow? {path : Path} {root node : Value}
    (reached : path.follow? root = some node) : root.foundAt? path = some node := by
  induction path generalizing root with
  | nil => exact reached
  | cons step rest ih =>
    simp only [Path.follow?, List.foldlM_cons, Option.bind_eq_bind,
      Option.bind_eq_some_iff] at reached
    obtain ⟨inner, first, behind⟩ := reached
    have entered : root.step? step = some inner := by
      cases step with
      | field name => exact (field_value?_eq_some_iff.mp first).1
      | index i => exact first
    rw [foundAt?, List.foldlM_cons, entered]
    exact ih behind

theorem foundAt?_field {path : Path} {root node : Value} (reached : path.follow? root = some node)
    (name : String) : root.foundAt? (path ++ [.field name]) = node.get? name := by
  have front := foundAt?_of_follow? reached
  rw [foundAt?] at front
  simp [foundAt?, List.foldlM_append, front, step?]

end Json.Value

theorem Scope.Leads.place_ne_nil {scope : Scope} {parent node : Value} {path place : Path} {i : Nat}
    (leads : scope.Leads parent path i node place) (moves : scope ≠ .current) : place ≠ [] := by
  cases leads with
  | current => contradiction
  | field => simp
  | each => simp

theorem Group.Visited.rule_mem {group : Group} {parent : Value} {path : Path} {visit : Visit}
    (visited : group.Visited parent path visit) : visit.rule ∈ group.allRules := by
  rw [mem_allRules_iff]
  induction visited with
  | precondition listed => exact .inl listed
  | rule _ _ listed => exact .inr (.inl (List.mem_of_getElem? listed))
  | child _ _ listed _ ih =>
    exact .inr (.inr ⟨_, List.mem_of_getElem? listed, mem_allRules_iff.mpr ih⟩)

theorem Group.Visited.gate_or_below {group : Group} {parent : Value} {path : Path} {visit : Visit}
    (visited : group.Visited parent path visit) (moves : group.scope ≠ .current) :
    (group.precondition = some visit.rule ∧ visit.node = parent ∧ visit.path = path) ∨
      visit.path ≠ [] ∧
        (visit.rule ∈ group.rules ∨ ∃ child ∈ group.children, visit.rule ∈ child.allRules) := by
  cases visited with
  | precondition listed => exact .inl ⟨listed, rfl, rfl⟩
  | rule _ leads listed =>
    exact .inr ⟨leads.place_ne_nil moves, .inl (List.mem_of_getElem? listed)⟩
  | child _ leads listed visited =>
    have deeper := List.IsPrefix.ne_nil visited.path_prefix (leads.place_ne_nil moves)
    exact .inr ⟨deeper, .inr ⟨_, List.mem_of_getElem? listed, visited.rule_mem⟩⟩

namespace Visit

theorem outcome_of_failed {visit : Visit} (fails : visit.outcome.passed = false) :
    visit.outcome = visit.rule.failure visit.node visit.path := by
  rw [Visit.outcome_passed] at fails
  rw [Visit.outcome, Rule.outcome, fails]
  rfl

theorem label_of_unmarked {visit : Visit} (unmarked : lacksMark visit.rule.label = true) :
    visit.outcome.label = visit.rule.label := by
  rw [Visit.outcome, Rule.outcome_label,
    Rule.labelAt_of_unmarked (unmarked_of_lacksMark unmarked)]

end Visit

namespace Contract.MinorUnits

def fieldRequirements : List String :=
  [" is present", " is an object", " is a non-negative integer", " is a positive integer",
    " is an ISO 8601 timestamp", " looks like a URL", " is a valid enum value",
    " has at least one item"]

/-- The JSON text of what was found. Null is told from nothing by the checks for presence alone. -/
def shownFor (requirement : String) : Option Value → String
  | none => "undefined"
  | some .null => if requirement = " is present" then "null" else "undefined"
  | some value => value.text

def remarkFor (requirement : String) : String :=
  if requirement = " is a valid enum value" then
    ", expected one of: pending, confirmed, shipped, delivered, cancelled"
  else ""

def detailFor (requirement : String) (found : Option Value) : String :=
  "got " ++ shownFor requirement found ++ remarkFor requirement

structure Tells (rule : Rule) (name requirement : String) : Prop where
  label : rule.label = here ("." ++ name ++ requirement)
  unmarked : '\x7b' ∉ ("." ++ name ++ requirement).toList
  plain : Path.IsPlain name
  listed : requirement ∈ fieldRequirements
  detail : ∀ node, rule.detail.map (· node) = some (detailFor requirement (node.get? name))

theorem shown_of_get? {requirement : String} (other : requirement ≠ " is present") (node : Value)
    (name : String) : (node.field name).shown = shownFor requirement (node.get? name) := by
  cases found : node.get? name with
  | none => simp [Value.field, found, Field.shown, shownFor]
  | some value =>
    cases value <;> simp [Value.field, found, Field.ofOption, Field.shown, shownFor, other]

theorem detail_ofField {requirement : String}
    (usual : requirement ≠ " is present" ∧ requirement ≠ " is a valid enum value")
    (label name : String) (check : Field → Bool) (node : Value) :
    (Rule.ofField label name check).detail.map (· node) =
      some (detailFor requirement (node.get? name)) := by
  simp [Rule.ofField, detailFor, remarkFor, usual.2, shown_of_get? usual.1]

theorem detail_mandatory (name : String) (node : Value) :
    (mandatory name).detail.map (· node) = some (detailFor " is present" (node.get? name)) := by
  have shown : ((node.get? name).map Value.text).getD "undefined" =
      shownFor " is present" (node.get? name) := by
    cases node.get? name with
    | none => rfl
    | some value => cases value <;> rfl
  simp [mandatory, Rule.withDetail, detailFor, remarkFor, shown]

theorem detail_status (node : Value) :
    some (allowedDetail "status" statuses node) =
      some (detailFor " is a valid enum value" (node.get? "status")) := by
  have allowed :
      ", ".intercalate statuses = "pending, confirmed, shipped, delivered, cancelled" := by
    decide +kernel
  have other : " is a valid enum value" ≠ " is present" := by decide
  have shown := shown_of_get? other node "status"
  rw [allowedDetail, detailFor, shown, allowed, remarkFor, if_pos rfl]
  simp [String.append_assoc]

def Told (rule : Rule) : Prop := ∃ name requirement, Tells rule name requirement

def IsUsual (rest name requirement : String) : Prop :=
  rest = "." ++ name ++ requirement ∧ lacksMark rest = true ∧ Path.IsPlain name ∧
    requirement ∈ fieldRequirements ∧ requirement ≠ " is present" ∧
    requirement ≠ " is a valid enum value"

instance (rest name requirement : String) : Decidable (IsUsual rest name requirement) :=
  inferInstanceAs (Decidable (_ ∧ _))

theorem told_ofField {rest : String} (name requirement : String)
    (usual : IsUsual rest name requirement) (check : Field → Bool) :
    Told (.ofField (here rest) name check) := by
  obtain ⟨rfl, unmarked, plain, listed, usual⟩ := usual
  exact ⟨name, requirement, rfl, unmarked_of_lacksMark unmarked, plain, listed,
    detail_ofField usual _ name check⟩

theorem told_mandatory : ∀ name ∈ orderFields ++ itemFields, Told (mandatory name) := by
  have named : ∀ name ∈ orderFields ++ itemFields,
      lacksMark ("." ++ name ++ " is present") = true ∧ Path.IsPlain name := by
    decide +kernel
  intro name asked
  obtain ⟨unmarked, plain⟩ := named name asked
  exact ⟨name, " is present", rfl, unmarked_of_lacksMark unmarked, plain, by decide,
    detail_mandatory name⟩

theorem told_pagination {rule : Rule} (listed : rule ∈ pagination.rules) : Told rule := by
  have usual : ∀ name ∈ paginationFields, IsUsual ("." ++ name ++ " is a non-negative integer")
      name " is a non-negative integer" := by
    decide +kernel
  obtain ⟨name, asked, rfl⟩ := List.mem_map.mp listed
  exact told_ofField name _ (usual name asked) _

theorem told_orders {rule : Rule} (listed : rule ∈ orders.rules) : Told rule := by
  rcases List.mem_append.mp listed with presence | own
  · obtain ⟨name, asked, rfl⟩ := List.mem_map.mp presence
    exact told_mandatory name (List.mem_append_left _ asked)
  · simp only [List.mem_cons, List.not_mem_nil, or_false] at own
    rcases own with rfl | rfl | rfl
    · exact ⟨"status", " is a valid enum value", by decide +kernel,
        unmarked_of_lacksMark (by decide +kernel), by decide, by decide, detail_status⟩
    · exact told_ofField "total_cents" " is a non-negative integer" (by decide +kernel) _
    · exact told_ofField "created_at" " is an ISO 8601 timestamp" (by decide +kernel) _

theorem told_items {rule : Rule} (listed : rule ∈ items.allRules) : Told rule := by
  rcases Group.mem_allRules_iff.mp listed with gate | own | ⟨child, below, _⟩
  · obtain rfl := Option.some.inj gate
    exact told_ofField "items" " has at least one item" (by decide +kernel) _
  · rcases List.mem_append.mp own with presence | own
    · obtain ⟨name, asked, rfl⟩ := List.mem_map.mp presence
      exact told_mandatory name (List.mem_append_right _ asked)
    · simp only [List.mem_cons, List.not_mem_nil, or_false] at own
      rcases own with rfl | rfl | rfl
      · exact told_ofField "thumbnail_url" " looks like a URL" (by decide +kernel) _
      · exact told_ofField "quantity" " is a positive integer" (by decide +kernel) _
      · exact told_ofField "unit_price_cents" " is a positive integer" (by decide +kernel) _
  · simp [items, Group.children] at below

/-- An outcome about the field at an address, which shows what the document has there. -/
structure Points (document : Value) (outcome : Outcome) (address : Path) (requirement : String) :
    Prop where
  listed : requirement ∈ fieldRequirements
  label : outcome.label = address.text ++ requirement
  read : Path.ofText? address.text = some address
  detail : outcome.detail = some (detailFor requirement (document.foundAt? address))

theorem points_of_tells {document : Value} {visit : Visit} {name requirement : String}
    (reached : visit.path.follow? document = some visit.node)
    (read : Path.ofText? visit.path.text = some visit.path) (below : visit.path ≠ [])
    (tells : Tells visit.rule name requirement) (fails : visit.outcome.passed = false) :
    Points document visit.outcome (visit.path ++ [.field name]) requirement := by
  have filled : visit.path.text.isEmpty = false := by
    rw [Bool.eq_false_iff]
    intro empty
    rw [Path.ofText?, if_pos empty] at read
    exact below (Option.some.inj read).symm
  rw [Visit.outcome_of_failed fails, failure_here tells.label tells.unmarked]
  refine ⟨tells.listed, ?_, Path.ofText?_field tells.plain read, ?_⟩
  · simp [Outcome.fail, Path.text_append, Path.extend, filled, String.append_assoc]
  · rw [Value.foundAt?_field reached]
    exact tells.detail visit.node

-- Its label has no mark: the place is the root.
theorem points_of_pageGate {document : Value} {visit : Visit}
    (gate : pagination.precondition = some visit.rule) (root : visit.node = document)
    (fails : visit.outcome.passed = false) :
    Points document visit.outcome [.field "pagination"] " is an object" := by
  have rule := (Option.some.inj gate).symm
  have usual : " is an object" ≠ " is present" ∧ " is an object" ≠ " is a valid enum value" := by
    decide
  refine ⟨by decide, ?_, by decide, ?_⟩
  · rw [Visit.label_of_unmarked (by rw [rule]; rfl), rule]
    decide +kernel
  · have start : Path.follow? document [] = some document := rfl
    have held : document.foundAt? [.field "pagination"] = document.get? "pagination" :=
      Value.foundAt?_field start "pagination"
    rw [Visit.outcome_of_failed fails, rule, root, held]
    exact detail_ofField usual "pagination is an object" "pagination" Field.isObject document

theorem told_of_visited_orders {parent : Value} {path : Path} {visit : Visit}
    (visited : orders.Visited parent path visit) : visit.path ≠ [] ∧ Told visit.rule := by
  rcases visited.gate_or_below (by decide) with ⟨gate, _⟩ | ⟨below, own | ⟨child, one, ruled⟩⟩
  · cases gate
  · exact ⟨below, told_orders own⟩
  · obtain rfl := List.mem_singleton.mp one
    exact ⟨below, told_items ruled⟩

theorem visited_cases {document : Value} {visit : Visit}
    (visited : rules.root.Visited document [] visit) :
    visit.rule = hasOrders ∨ visit.rule = displayInline ⟨"product_name", "thumbnail_url"⟩ ∨
      pagination.precondition = some visit.rule ∧ visit.node = document ∨
      visit.path ≠ [] ∧ Told visit.rule := by
  cases visited with
  | precondition gate => exact .inl (Option.some.inj gate).symm
  | rule _ _ own => cases own
  | @child _ child _ node _ place i c visit _ leads own visited =>
    have here : node = document := by
      cases leads
      rfl
    obtain rfl := here
    have sections : child ∈ [pagination, orders, inlineData] := List.mem_of_getElem? own
    simp only [List.mem_cons, List.not_mem_nil, or_false] at sections
    rcases sections with rfl | rfl | rfl
    · right; right
      rcases visited.gate_or_below (by decide) with ⟨gate, same, _⟩ | ⟨below, own | ⟨_, none, _⟩⟩
      · exact .inl ⟨gate, same⟩
      · exact .inr ⟨below, told_pagination own⟩
      · cases none
    · have told := told_of_visited_orders visited
      exact .inr (.inr (.inr told))
    · have display : visit.rule = displayInline ⟨"product_name", "thumbnail_url"⟩ := by
        simpa [inlineData, Group.allRules, Group.allRulesOfAll] using visited.rule_mem
      exact .inr (.inl display)

theorem failures_cases {document : Value} {outcome : Outcome}
    (listed : outcome ∈ (rules.check document).failures) :
    outcome.label = "response has an \"orders\" array" ∨
      outcome.label = "all items carry product_name and thumbnail_url inline (no follow-up fetch)" ∨
      ∃ address requirement, Points document outcome address requirement := by
  obtain ⟨recorded, failed⟩ := List.mem_filter.mp listed
  have fails : outcome.passed = false := by simpa using failed
  have walked : outcome ∈ (rules.root.visits document []).map Visit.outcome := by
    rwa [← Group.outcomes_eq_map_visits]
  obtain ⟨visit, member, rfl⟩ := List.mem_map.mp walked
  have visited := (Group.mem_visits_iff ..).mp member
  have named {rule : Rule} (same : visit.rule = rule) (unmarked : lacksMark rule.label = true) :
      visit.outcome.label = rule.label := by
    rw [← same] at unmarked ⊢
    exact Visit.label_of_unmarked unmarked
  rcases visited_cases visited with gate | display | ⟨page, root⟩ | ⟨below, _, _, tells⟩
  · exact .inl (named gate rfl)
  · refine .inr (.inl ((named display (by decide +kernel)).trans ?_))
    decide +kernel
  · exact .inr (.inr ⟨_, _, points_of_pageGate page root fails⟩)
  · exact .inr (.inr ⟨_, _, points_of_tells (visited.follow?_eq rfl)
      (visited.ofText?_eq (by decide) rfl) below tells fails⟩)

theorem split_unique {text other requirement another : String}
    (listed : requirement ∈ fieldRequirements) (also : another ∈ fieldRequirements)
    (same : text ++ requirement = other ++ another) : requirement = another ∧ text = other := by
  have apart : ∀ a ∈ fieldRequirements, ∀ b ∈ fieldRequirements, a.toList <:+ b.toList → a = b := by
    decide +kernel
  have ends : requirement.toList <:+ (text ++ requirement).toList := by simp
  have alsoEnds : another.toList <:+ (text ++ requirement).toList := by simp [same]
  have equal : requirement = another := by
    rcases List.suffix_or_suffix_of_suffix ends alsoEnds with inner | inner
    · exact apart _ listed _ also inner
    · exact (apart _ also _ listed inner).symm
  subst equal
  exact ⟨rfl, String.append_left_inj _ |>.mp same⟩

def EndsOtherwise (label : String) : Prop :=
  ∀ requirement ∈ fieldRequirements, ¬requirement.toList <:+ label.toList

theorem EndsOtherwise.ne {label text requirement : String} (ends : EndsOtherwise label)
    (listed : requirement ∈ fieldRequirements) : label ≠ text ++ requirement := by
  rintro rfl
  exact ends requirement listed (by simp)

/--
The detail of a failure tells what the document has at the address in front of the requirement. Only
the gate and the rule for display data have labels of another form.
-/
theorem failures_show_values (document : Value) :
    (∀ outcome ∈ (rules.check document).failures, ∀ requirement ∈ fieldRequirements,
      ∀ text address, outcome.label = text ++ requirement → Path.ofText? text = some address →
        outcome.detail = some ("got " ++ shownFor requirement (document.foundAt? address) ++
          remarkFor requirement)) ∧
    ∀ outcome ∈ (rules.check document).failures,
      outcome.label = "response has an \"orders\" array" ∨
      outcome.label = "all items carry product_name and thumbnail_url inline (no follow-up fetch)" ∨
      ∃ requirement ∈ fieldRequirements, ∃ text address,
        outcome.label = text ++ requirement ∧ Path.ofText? text = some address := by
  have gate : EndsOtherwise "response has an \"orders\" array" := by
    rw [EndsOtherwise]
    decide +kernel
  have display : EndsOtherwise
      "all items carry product_name and thumbnail_url inline (no follow-up fetch)" := by
    rw [EndsOtherwise]
    decide +kernel
  constructor
  · intro outcome listed requirement asked text address label read
    rcases failures_cases listed with same | same | ⟨place, another, points⟩
    · exact absurd (same.symm.trans label) (gate.ne asked)
    · exact absurd (same.symm.trans label) (display.ne asked)
    · obtain ⟨rfl, rfl⟩ := split_unique asked points.listed (label.symm.trans points.label)
      obtain rfl := Option.some.inj (read.symm.trans points.read)
      exact points.detail
  · intro outcome listed
    refine (failures_cases listed).imp_right (Or.imp_right ?_)
    rintro ⟨address, requirement, points⟩
    exact ⟨requirement, points.listed, address.text, address, points.label, points.read⟩

def patchyDocument : Value :=
  .object [("orders", .array [.bool true, .object [("id", .null), ("status", .null)]]),
    ("pagination", .object [("limit", .string "all")])]

theorem patchyDocument_shown :
    (∃ outcome ∈ (rules.check patchyDocument).failures,
      outcome.label = "orders[0].id is present" ∧ outcome.detail = some "got undefined") ∧
    (∃ outcome ∈ (rules.check patchyDocument).failures,
      outcome.label = "orders[1].id is present" ∧ outcome.detail = some "got null") ∧
    (∃ outcome ∈ (rules.check patchyDocument).failures,
      outcome.label = "orders[1].status is a valid enum value" ∧ outcome.detail = some
        "got undefined, expected one of: pending, confirmed, shipped, delivered, cancelled") ∧
    ∃ outcome ∈ (rules.check patchyDocument).failures,
      outcome.label = "pagination.limit is a non-negative integer" ∧
        outcome.detail = some "got \"all\"" := by
  have shown (text requirement : String) (address : Path) {label detail : String}
      (split : label = text ++ requirement) (asked : requirement ∈ fieldRequirements)
      (read : Path.ofText? text = some address)
      (found : "got " ++ shownFor requirement (patchyDocument.foundAt? address) ++
        remarkFor requirement = detail)
      (listed : ∃ outcome ∈ (rules.check patchyDocument).failures, outcome.label = label) :
      ∃ outcome ∈ (rules.check patchyDocument).failures,
        outcome.label = label ∧ outcome.detail = some detail := by
    obtain ⟨outcome, failed, named⟩ := listed
    have told := (failures_show_values patchyDocument).1 outcome failed requirement asked text
      address (named.trans split) read
    exact ⟨outcome, failed, named, told.trans (congrArg some found)⟩
  have listed : ∀ label ∈ ["orders[0].id is present", "orders[1].id is present",
      "orders[1].status is a valid enum value", "pagination.limit is a non-negative integer"],
      ∃ outcome ∈ (rules.check patchyDocument).failures, outcome.label = label := by
    decide +kernel
  refine ⟨?_, ?_, ?_, ?_⟩
  · exact shown "orders[0].id" " is present" [.field "orders", .index 0, .field "id"] rfl
      (by decide) (by decide) (by decide +kernel) (listed _ (by decide))
  · exact shown "orders[1].id" " is present" [.field "orders", .index 1, .field "id"] rfl
      (by decide) (by decide) (by decide +kernel) (listed _ (by decide))
  · exact shown "orders[1].status" " is a valid enum value"
      [.field "orders", .index 1, .field "status"] rfl
      (by decide) (by decide) (by decide +kernel) (listed _ (by decide))
  · exact shown "pagination.limit" " is a non-negative integer"
      [.field "pagination", .field "limit"] rfl
      (by decide) (by decide) (by decide +kernel) (listed _ (by decide))

end Contract.MinorUnits

end OrdersContract
