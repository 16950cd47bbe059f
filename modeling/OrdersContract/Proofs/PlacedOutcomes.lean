import OrdersContract.Proofs.GroupLabels
import OrdersContract.Proofs.LabelPatterns

set_option autoImplicit false

namespace OrdersContract

open Json Text

namespace Outcome

def placedAt (place : String) (outcome : Outcome) : Outcome :=
  { outcome with label := place ++ outcome.label }

@[simp] theorem placedAt_label (place : String) (outcome : Outcome) :
    (outcome.placedAt place).label = place ++ outcome.label := rfl

theorem placedAt_placedAt (place rest : String) (outcome : Outcome) :
    (outcome.placedAt rest).placedAt place = outcome.placedAt (place ++ rest) := by
  rw [placedAt, placedAt, placedAt, String.append_assoc]

end Outcome

/-- What is recorded below a place depends on the place only where a label begins with it. The root
of a document is not such a place: a name there follows no point. -/
def FollowsPlace (recorded : Path → List Outcome) : Prop :=
  ∃ block : List Outcome, ∀ path : Path, path.text ≠ "" →
    recorded path = block.map (·.placedAt path.text)

theorem Path.foldl_extend_eq (steps : Path) :
    ∃ rest : String, ∀ text : String, text ≠ "" → steps.foldl extend text = text ++ rest := by
  induction steps with
  | nil => exact ⟨"", fun text _ => (String.append_empty).symm⟩
  | cons step steps ih =>
    obtain ⟨rest, further⟩ := ih
    have own : ∃ added : String, ∀ text : String, text ≠ "" → extend text step = text ++ added := by
      cases step with
      | field name =>
        refine ⟨"." ++ name, fun text filled => ?_⟩
        rw [extend, String.isEmpty_eq_false_iff.mpr filled, String.append_assoc]
        rfl
      | index i =>
        refine ⟨"[" ++ decimalText i ++ "]", fun text _ => ?_⟩
        rw [extend, String.append_assoc, String.append_assoc, String.append_assoc]
    obtain ⟨added, extended⟩ := own
    refine ⟨added ++ rest, fun text filled => ?_⟩
    have longer : text ++ added ≠ "" := fun empty => filled (String.append_eq_empty_iff.mp empty).1
    rw [List.foldl_cons, extended text filled, further _ longer, String.append_assoc]

namespace FollowsPlace

theorem nil : FollowsPlace fun _ => [] := ⟨[], fun _ _ => rfl⟩

theorem append {first second : Path → List Outcome} (front : FollowsPlace first)
    (back : FollowsPlace second) : FollowsPlace fun path => first path ++ second path := by
  obtain ⟨block, recorded⟩ := front
  obtain ⟨others, alsoRecorded⟩ := back
  refine ⟨block ++ others, fun path filled => ?_⟩
  simp only [recorded path filled, alsoRecorded path filled, List.map_append]

theorem flatMap {α : Type} {items : List α} {recorded : α → Path → List Outcome}
    (each : ∀ item ∈ items, FollowsPlace (recorded item)) :
    FollowsPlace fun path => items.flatMap (recorded · path) := by
  induction items with
  | nil => exact nil
  | cons item rest ih =>
    have others := ih fun other listed => each other (List.mem_cons_of_mem _ listed)
    simpa only [List.flatMap_cons] using (each item List.mem_cons_self).append others

theorem below {recorded : Path → List Outcome} (follows : FollowsPlace recorded) (steps : Path) :
    FollowsPlace fun path => recorded (path ++ steps) := by
  obtain ⟨block, recorded_eq⟩ := follows
  obtain ⟨rest, extended⟩ := Path.foldl_extend_eq steps
  refine ⟨block.map (·.placedAt rest), fun path filled => ?_⟩
  have place : Path.text (path ++ steps) = path.text ++ rest := by
    rw [Path.text, List.foldl_append]
    exact extended path.text filled
  have deeper : Path.text (path ++ steps) ≠ "" := by
    rw [place]
    exact fun empty => filled (String.append_eq_empty_iff.mp empty).1
  simp only [recorded_eq _ deeper, place, List.map_map]
  exact List.map_congr_left fun outcome _ => (outcome.placedAt_placedAt path.text rest).symm

theorem scope {recorded : Value → Path → List Outcome} (each : ∀ node, FollowsPlace (recorded node))
    (scope : Scope) (parent : Value) :
    FollowsPlace fun path =>
      (scope.nodes parent path).flatMap fun selected => recorded selected.1 selected.2 := by
  cases scope with
  | current => simpa [Scope.nodes] using each parent
  | field name =>
    cases found : (parent.field name).value? with
    | none => simpa [Scope.nodes, found] using nil
    | some node => simpa [Scope.nodes, found] using (each node).below [.field name]
  | each name =>
    simp only [Scope.flatMap_nodes_each]
    exact flatMap fun numbered _ => (each numbered.1).below [.field name, .index numbered.2]

end FollowsPlace

namespace Rule

def placedOnce (rule : Rule) : Bool :=
  rule.beginsWithPlace && !((charsOf rule.label).drop markChars.length).contains '\x7b'

theorem exists_rest_of_placedOnce {rule : Rule} (once : rule.placedOnce = true) :
    ∃ rest : String, ∀ path, rule.labelAt path = path.text ++ rest := by
  rw [placedOnce, beginsWithPlace, Bool.and_eq_true, charsOf_eq] at once
  obtain ⟨begins, unmarked⟩ := once
  obtain ⟨rest, label⟩ := List.isPrefixOf_iff_prefix.mp begins
  have spelled : rule.label = Contract.here (.ofList rest) := by
    have mark : placeMark.toList = markChars := by decide
    rw [← String.toList_inj, ← label, Contract.here, String.toList_append, mark,
      String.toList_ofList]
  rw [← label, List.drop_left] at unmarked
  refine ⟨.ofList rest, labelAt_here spelled ?_⟩
  simpa using unmarked

theorem outcome?_follows {rule : Rule} (once : rule.placedOnce = true) (node : Value) :
    FollowsPlace fun path => (rule.outcome? node path).toList := by
  obtain ⟨rest, label⟩ := exists_rest_of_placedOnce once
  by_cases applies : rule.appliesTo node = true
  next =>
    refine ⟨[if rule.evaluate node then .pass rest else .fail rest (rule.detail.map (· node))],
      fun path _ => ?_⟩
    simp only [outcome?, if_pos applies, outcome, label]
    split <;> rfl
  next =>
    refine ⟨[], fun path _ => ?_⟩
    simp only [outcome?, if_neg applies]
    rfl

end Rule

namespace Group

variable {group : Group}

theorem outcomesAt_follows (own : ∀ rule ∈ group.rules, rule.placedOnce = true)
    (below : ∀ child ∈ group.children, ∀ node, FollowsPlace (child.outcomes node)) (node : Value) :
    FollowsPlace (group.outcomesAt node) := by
  have rules : FollowsPlace fun path => group.rules.filterMap (·.outcome? node path) := by
    simp only [List.filterMap_eq_flatMap_toList]
    exact .flatMap fun rule listed => Rule.outcome?_follows (own rule listed) node
  exact rules.append (.flatMap fun child listed => below child listed node)

theorem outcomes_follow (once : ∀ rule ∈ group.allRules, rule.placedOnce = true)
    (parent : Value) : FollowsPlace (group.outcomes parent) := by
  induction group generalizing parent with
  | mk name scope precondition rules children ih =>
    obtain ⟨gated, own, below⟩ := forall_mem_allRules_iff.mp once
    have gate : FollowsPlace fun path => (precondition.bind (·.outcome? parent path)).toList := by
      cases precondition with
      | none => exact .nil
      | some rule => exact Rule.outcome?_follows (gated rule rfl) parent
    have inside := FollowsPlace.scope (outcomesAt_follows own fun child listed =>
      ih child listed (below child listed)) scope parent
    -- Whether the gate is open is settled by the node alone.
    rw [funext (outcomes_eq _ parent)]
    apply gate.append
    split
    next => exact inside
    next => exact .nil

theorem exists_block (once : ∀ rule ∈ group.allRules, rule.placedOnce = true) :
    ∃ block : Value → List Outcome, ∀ node path, path.text ≠ "" →
      group.outcomesAt node path = (block node).map (·.placedAt path.text) := by
  obtain ⟨_, own, below⟩ := forall_mem_allRules_iff.mp once
  have follows := outcomesAt_follows own fun child listed => outcomes_follow (below child listed)
  choose block recorded using follows
  exact ⟨block, recorded⟩

end Group

end OrdersContract
