import OrdersContract.Proofs.Acceptance

set_option autoImplicit false

namespace OrdersContract

open Json

theorem Rule.labelAt_of_mem_outcome? {rule : Rule} {node : Value} {path : Path} {outcome : Outcome}
    (made : outcome ∈ rule.outcome? node path) : outcome.label = rule.labelAt path := by
  by_cases applies : rule.appliesTo node <;>
    simp only [Rule.outcome?, applies, if_true, if_false, Option.mem_def, Option.some.injEq,
      reduceCtorEq] at made
  rw [← made, Rule.outcome]
  split <;> rfl

theorem Group.mem_outcomes_iff {group : Group} {parent : Value} {path : Path} {outcome : Outcome} :
    outcome ∈ group.outcomes parent path ↔
      (∃ rule ∈ group.precondition, outcome ∈ rule.outcome? parent path) ∨
      (∀ rule ∈ group.precondition, rule.Holds parent) ∧
        ∃ node place, (node, place) ∈ group.scope.nodes parent path ∧
          ((∃ rule ∈ group.rules, outcome ∈ rule.outcome? node place) ∨
            ∃ child ∈ group.children, outcome ∈ child.outcomes node place) := by
  cases group with
  | mk name scope precondition rules children =>
    have opened : (precondition.bind (·.outcome? parent path)).all Outcome.passed = true ↔
        ∀ rule ∈ precondition, rule.Holds parent := by
      cases precondition with
      | none => simp
      | some rule => simpa [Option.all_eq_true] using rule.outcome?_passed_iff parent path
    simp only [outcomes, Group.precondition, Group.scope, Group.rules, Group.children,
      outcomesOfAll_eq_flatMap, List.mem_append, Option.mem_toList, Option.mem_def,
      Option.bind_eq_some_iff, List.mem_ite_nil_right, opened, List.mem_flatMap, List.mem_filterMap,
      Prod.exists]

def Scope.name? : Scope → Option String
  | current => none
  | field name => some name
  | each name => some name

namespace Group

mutual

def scopeNames : Group → List String
  | mk _ scope _ _ children => scope.name?.toList ++ scopeNamesOfAll children
  termination_by structural group => group

def scopeNamesOfAll : List Group → List String
  | [] => []
  | group :: rest => group.scopeNames ++ scopeNamesOfAll rest
  termination_by structural groups => groups

end

theorem scopeNamesOfAll_eq_flatMap (groups : List Group) :
    scopeNamesOfAll groups = groups.flatMap scopeNames := by
  induction groups with
  | nil => rfl
  | cons group rest ih => simp [scopeNamesOfAll, ih]

theorem mem_scopeNames_iff {group : Group} {name : String} :
    name ∈ group.scopeNames ↔
      group.scope.name? = some name ∨ ∃ child ∈ group.children, name ∈ child.scopeNames := by
  cases group with
  | mk _ scope _ _ children =>
    simp [scopeNames, scopeNamesOfAll_eq_flatMap, Group.scope, Group.children]

mutual

def allRules : Group → List Rule
  | mk _ _ precondition rules children =>
    precondition.toList ++ (rules ++ allRulesOfAll children)
  termination_by structural group => group

def allRulesOfAll : List Group → List Rule
  | [] => []
  | group :: rest => group.allRules ++ allRulesOfAll rest
  termination_by structural groups => groups

end

theorem allRulesOfAll_eq_flatMap (groups : List Group) :
    allRulesOfAll groups = groups.flatMap allRules := by
  induction groups with
  | nil => rfl
  | cons group rest ih => simp [allRulesOfAll, ih]

theorem mem_allRules_iff {group : Group} {rule : Rule} :
    rule ∈ group.allRules ↔ group.precondition = some rule ∨ rule ∈ group.rules ∨
      ∃ child ∈ group.children, rule ∈ child.allRules := by
  cases group with
  | mk _ _ precondition rules children =>
    simp [allRules, allRulesOfAll_eq_flatMap, Group.precondition, Group.rules, Group.children]

theorem forall_mem_allRules_iff {group : Group} {test : Rule → Prop} :
    (∀ rule ∈ group.allRules, test rule) ↔
      (∀ rule, group.precondition = some rule → test rule) ∧ (∀ rule ∈ group.rules, test rule) ∧
        ∀ child ∈ group.children, ∀ rule ∈ child.allRules, test rule := by
  constructor
  · intro all
    refine ⟨fun rule gate => all rule (mem_allRules_iff.mpr (.inl gate)),
      fun rule listed => all rule (mem_allRules_iff.mpr (.inr (.inl listed))), ?_⟩
    exact fun child listed rule ruled =>
      all rule (mem_allRules_iff.mpr (.inr (.inr ⟨child, listed, ruled⟩)))
  · rintro ⟨gate, own, below⟩ rule member
    rcases mem_allRules_iff.mp member with gated | listed | ⟨child, listed, ruled⟩
    · exact gate rule gated
    · exact own rule listed
    · exact below child listed rule ruled

end Group

theorem Scope.steps_of_mem_nodes {scope : Scope} {parent node : Value} {path place : Path}
    (selected : (node, place) ∈ scope.nodes parent path) :
    ∃ steps, place = path ++ steps ∧ ∀ name, .field name ∈ steps → scope.name? = some name := by
  cases scope with
  | current =>
    simp only [nodes, List.mem_singleton, Prod.mk.injEq] at selected
    exact ⟨[], by simp [selected.2], by simp⟩
  | field name =>
    simp only [nodes, Option.mem_toList, Option.map_eq_some_iff, Prod.mk.injEq] at selected
    obtain ⟨_, _, _, rfl⟩ := selected
    exact ⟨[.field name], rfl, by simp [name?]⟩
  | each name =>
    simp only [nodes, List.mem_mapIdx, Prod.mk.injEq] at selected
    obtain ⟨i, _, _, rfl⟩ := selected
    exact ⟨[.field name, .index i], rfl, by simp [name?]⟩

theorem Group.exists_rule_of_mem_outcomes {group : Group} {parent : Value} {path : Path}
    {outcome : Outcome} (made : outcome ∈ group.outcomes parent path) :
    ∃ rule ∈ group.allRules, ∃ (node : Value) (steps : Path),
      (∀ name, .field name ∈ steps → name ∈ group.scopeNames) ∧
      outcome ∈ rule.outcome? node (path ++ steps) := by
  induction group generalizing parent path with
  | mk name scope precondition rules children ih =>
    rcases mem_outcomes_iff.mp made with ⟨rule, gate, own⟩ | ⟨_, node, place, selected, below⟩
    · exact ⟨rule, mem_allRules_iff.mpr (.inl gate), parent, [], by simp, by simpa using own⟩
    · obtain ⟨steps, rfl, asked⟩ := Scope.steps_of_mem_nodes selected
      rcases below with ⟨rule, listed, own⟩ | ⟨child, listed, own⟩
      · refine ⟨rule, mem_allRules_iff.mpr (.inr (.inl listed)), node, steps, ?_, own⟩
        exact fun name member => mem_scopeNames_iff.mpr (.inl (asked name member))
      · obtain ⟨rule, ruled, inner, further, named, own⟩ := ih child listed own
        refine ⟨rule, mem_allRules_iff.mpr (.inr (.inr ⟨child, listed, ruled⟩)), inner,
          steps ++ further, ?_, by simpa using own⟩
        intro name member
        rcases List.mem_append.mp member with first | later
        · exact mem_scopeNames_iff.mpr (.inl (asked name first))
        · exact mem_scopeNames_iff.mpr (.inr ⟨child, listed, named name later⟩)

end OrdersContract
