import Mathlib.Data.List.Nodup
import OrdersContract.Proofs.AsciiTexts
import OrdersContract.Proofs.Decimals
import OrdersContract.Proofs.Labels
import OrdersContract.Proofs.Trees
import OrdersContract.Text.Pieces

/-!
When the labels of a tree are all different. A label without its digits is a pattern, and each rule
has one pattern at all its places; labels of one rule at two places differ in an index. So it is
enough that no two rules share a pattern and that rules about elements begin with the place.
-/

set_option autoImplicit false

namespace OrdersContract

open Json Text

def withoutDigits (chars : List Char) : List Char := chars.filter (!isDigit ·)

@[simp] theorem withoutDigits_append (front back : List Char) :
    withoutDigits (front ++ back) = withoutDigits front ++ withoutDigits back :=
  List.filter_append ..

theorem withoutDigits_cons {c : Char} (other : isDigit c = false) (rest : List Char) :
    withoutDigits (c :: rest) = c :: withoutDigits rest := by
  simp [withoutDigits, other]

@[simp] theorem withoutDigits_decimal (value : Nat) : withoutDigits (decimal value) = [] := by
  rw [withoutDigits, List.filter_eq_nil_iff]
  intro c member
  simp [isDigit_of_mem_decimal member]

theorem withoutDigits_putPlace {place other : List Char}
    (same : withoutDigits place = withoutDigits other) (template : List Char) :
    withoutDigits (putPlace place template) = withoutDigits (putPlace other template) := by
  induction template using putPlace.induct with
  | case1 rest ih => simp [putPlace, same, ih]
  | case2 c rest unmarked ih =>
    rw [putPlace, putPlace]
    · simpa only [withoutDigits, List.filter_cons, apply_ite (c :: ·)] using
        congrArg (fun later => if !isDigit c then c :: later else later) ih
    all_goals exact unmarked
  | case3 => rfl

def Path.shape (path : Path) : Path :=
  path.map fun step => match step with
    | .field name => .field name
    | .index _ => .index 0

theorem Path.isEmpty_extend (text : String) (step : Step) :
    (extend text step).isEmpty = match step with
      | .field name => text.isEmpty && name.isEmpty
      | .index _ => false := by
  rw [Bool.eq_iff_iff, String.isEmpty_iff, ← String.toList_eq_nil_iff]
  cases step with
  | field name => cases start : text.isEmpty <;> simp [extend, start]
  | index i => simp [extend]

theorem Path.withoutDigits_foldl_extend (path : Path) {text other : String}
    (same : withoutDigits text.toList = withoutDigits other.toList)
    (filled : text.isEmpty = other.isEmpty) :
    withoutDigits (path.shape.foldl extend text).toList =
      withoutDigits (path.foldl extend other).toList := by
  induction path generalizing text other with
  | nil => exact same
  | cons step rest ih =>
    apply ih
    · cases step with
      | field name =>
        simp only [extend, filled]
        split <;> simp [same]
      | index i =>
        have opening : isDigit '[' = false := by decide
        simp [extend, decimalText, same, withoutDigits_cons opening]
    · rw [isEmpty_extend, isEmpty_extend, filled]
      cases step <;> rfl

def Rule.pattern (rule : Rule) (path : Path) : List Char :=
  withoutDigits (putPlace (charsOf path.text) (charsOf rule.label))

theorem Rule.pattern_eq (rule : Rule) (path : Path) :
    rule.pattern path = withoutDigits (rule.labelAt path).toList := by
  rw [pattern, labelAt, String.toList_ofList, charsOf_eq, charsOf_eq]

theorem Rule.pattern_shape (rule : Rule) (path : Path) :
    rule.pattern path.shape = rule.pattern path := by
  have same : withoutDigits path.shape.text.toList = withoutDigits path.text.toList :=
    Path.withoutDigits_foldl_extend path rfl rfl
  simp only [pattern, charsOf_eq]
  exact withoutDigits_putPlace same _

namespace Scope

def shapeBelow (scope : Scope) (path : Path) : Path :=
  match scope with
  | current => path
  | field name => path ++ [.field name]
  | each name => path ++ [.field name, .index 0]

theorem shape_of_mem_nodes {scope : Scope} {parent node : Value} {path place : Path}
    (selected : (node, place) ∈ scope.nodes parent path) :
    place.shape = scope.shapeBelow path.shape := by
  cases scope with
  | current =>
    simp only [nodes, List.mem_singleton, Prod.mk.injEq] at selected
    rw [selected.2, shapeBelow]
  | field name =>
    simp only [nodes, Option.mem_toList, Option.map_eq_some_iff, Prod.mk.injEq] at selected
    obtain ⟨_, _, _, rfl⟩ := selected
    simp [Path.shape, shapeBelow]
  | each name =>
    simp only [nodes, List.mem_mapIdx, Prod.mk.injEq] at selected
    obtain ⟨i, _, _, rfl⟩ := selected
    simp [Path.shape, shapeBelow]

def isEach : Scope → Bool
  | each _ => true
  | _ => false

end Scope

def Rule.beginsWithPlace (rule : Rule) : Bool :=
  markChars.isPrefixOf (charsOf rule.label)

namespace Group

mutual

def patterns : Group → Path → List (List Char)
  | mk _ scope precondition rules children, path =>
    precondition.toList.map (·.pattern path) ++
      (rules.map (·.pattern (scope.shapeBelow path)) ++
        patternsOfAll children (scope.shapeBelow path))
  termination_by structural group => group

def patternsOfAll : List Group → Path → List (List Char)
  | [], _ => []
  | group :: rest, path => group.patterns path ++ patternsOfAll rest path
  termination_by structural groups => groups

end

mutual

/-- Every rule about the elements of an array, or about what is below them, begins with the place. -/
def tellsElements : Group → Bool
  | mk _ scope _ rules children =>
    (!scope.isEach || (rules ++ allRulesOfAll children).all Rule.beginsWithPlace) &&
      allTellElements children
  termination_by structural group => group

def allTellElements : List Group → Bool
  | [] => true
  | group :: rest => group.tellsElements && allTellElements rest
  termination_by structural groups => groups

end

theorem tellsElements_iff {group : Group} :
    group.tellsElements = true ↔
      (group.scope.isEach = true → (∀ rule ∈ group.rules, rule.beginsWithPlace = true) ∧
        ∀ child ∈ group.children, ∀ rule ∈ child.allRules, rule.beginsWithPlace = true) ∧
      ∀ child ∈ group.children, child.tellsElements = true := by
  have all (groups : List Group) :
      allTellElements groups = true ↔ ∀ group ∈ groups, group.tellsElements = true := by
    induction groups with
    | nil => simp [allTellElements]
    | cons group rest ih => simp [allTellElements, ih]
  cases group with
  | mk name scope precondition rules children =>
    cases each : scope.isEach <;>
      simp [tellsElements, all, Group.scope, Group.rules, Group.children, each,
        allRulesOfAll_eq_flatMap]

end Group

structure HavePatterns (patterns : List (List Char)) (labels : List String) : Prop where
  distinct : labels.Nodup
  listed : ∀ label ∈ labels, withoutDigits label.toList ∈ patterns

namespace HavePatterns

theorem nil (patterns : List (List Char)) : HavePatterns patterns [] := ⟨.nil, by simp⟩

theorem append {front back : List (List Char)} {labels others : List String}
    (distinct : (front ++ back).Nodup) (first : HavePatterns front labels)
    (second : HavePatterns back others) : HavePatterns (front ++ back) (labels ++ others) := by
  constructor
  · rw [List.nodup_append]
    refine ⟨first.distinct, second.distinct, ?_⟩
    intro label here other there same
    have apart := (List.nodup_append.mp distinct).2.2
    exact apart _ (first.listed label here) _ (second.listed other there) (same ▸ rfl)
  · intro label member
    rw [List.mem_append] at member ⊢
    exact member.imp (first.listed label) (second.listed label)

theorem flatMap {α : Type} {patterns : List (List Char)} {items : List α} {labels : α → List String}
    (each : ∀ item ∈ items, HavePatterns patterns (labels item))
    (apart : items.Pairwise fun item other => ∀ label ∈ labels item, label ∉ labels other) :
    HavePatterns patterns (items.flatMap labels) := by
  constructor
  · rw [List.nodup_flatMap]
    exact ⟨fun item member => (each item member).distinct, apart⟩
  · rw [List.forall_mem_flatMap]
    exact fun item member => (each item member).listed

theorem ofRule (rule : Rule) (node : Value) (place : Path) :
    HavePatterns [rule.pattern place] ((rule.outcome? node place).toList.map Outcome.label) := by
  cases made : rule.outcome? node place with
  | none => exact .nil _
  | some outcome =>
    have label := Rule.labelAt_of_mem_outcome? made
    exact ⟨by simp, by simp [label, Rule.pattern_eq]⟩

theorem ofRules (rules : List Rule) (node : Value) (place : Path)
    (distinct : (rules.map (·.pattern place)).Nodup) :
    HavePatterns (rules.map (·.pattern place))
      ((rules.filterMap (·.outcome? node place)).map Outcome.label) := by
  induction rules with
  | nil => exact .nil _
  | cons rule rest ih =>
    have others := ih (List.nodup_cons.mp distinct).2
    have own := ofRule rule node place
    have both : HavePatterns ([rule.pattern place] ++ rest.map (·.pattern place)) _ :=
      append distinct own others
    cases made : rule.outcome? node place <;> simpa [made] using both

end HavePatterns

theorem Rule.place_prefix_of_mem_outcome? {rule : Rule} (begins : rule.beginsWithPlace = true)
    {node : Value} {place : Path} {outcome : Outcome} (made : outcome ∈ rule.outcome? node place) :
    place.text.toList <+: outcome.label.toList := by
  rw [beginsWithPlace, charsOf_eq] at begins
  obtain ⟨rest, label⟩ := List.isPrefixOf_iff_prefix.mp begins
  have mark : placeMark.toList = markChars := by decide
  have marked : rule.label = placeMark ++ .ofList rest := by
    rw [← String.toList_inj, ← label]
    simp [mark]
  rw [labelAt_of_mem_outcome? made]
  exact place_prefix_labelAt marked place

theorem Path.prefix_foldl_extend (text : String) (steps : Path) :
    text.toList <+: (steps.foldl extend text).toList := by
  induction steps generalizing text with
  | nil => exact List.prefix_rfl
  | cons step rest ih =>
    refine List.IsPrefix.trans ?_ (ih (extend text step))
    cases step with
    | field name =>
      simp only [extend]
      split
      next empty => simp [String.isEmpty_iff.mp empty]
      next => simp
    | index i => simp [extend]

theorem Path.text_prefix_append (path steps : Path) :
    path.text.toList <+: (text (path ++ steps)).toList := by
  have further : text (path ++ steps) = steps.foldl extend path.text := List.foldl_append
  rw [further]
  exact prefix_foldl_extend _ steps

-- The closing bracket tells where the index ends.
theorem Path.index_eq_of_prefix {path : Path} {i j : Nat} {label : List Char}
    (here : (text (path ++ [.index i])).toList <+: label)
    (there : (text (path ++ [.index j])).toList <+: label) : i = j := by
  have inside (k : Nat) : ']' ∉ decimal k := not_mem_decimal (by decide) k
  have shown (k : Nat) : (text (path ++ [.index k])).toList =
      (path.text.toList ++ ['[']) ++ (decimal k ++ [']']) := by
    simp [text_append, extend, decimalText]
  have ends {k l : Nat} {rest : List Char} (longer : decimal k ++ ([']'] ++ rest) = decimal l ++ [']']) :
      k = l := by
    have cut : cut? ']' (decimal k ++ ']' :: rest) = some (decimal k, rest) := cut?_append (inside k) _
    have other : cut? ']' (decimal l ++ [']']) = some (decimal l, []) := cut?_append (inside l) _
    rw [List.singleton_append] at longer
    rw [longer, other, Option.some.injEq, Prod.mk.injEq] at cut
    exact decimal_injective cut.1.symm
  rw [shown] at here there
  rcases List.prefix_or_prefix_of_prefix here there with ⟨rest, same⟩ | ⟨rest, same⟩
  · rw [List.append_assoc, List.append_cancel_left_eq, List.append_assoc] at same
    exact ends same
  · rw [List.append_assoc, List.append_cancel_left_eq, List.append_assoc] at same
    exact (ends same).symm

namespace Group

theorem place_prefix_of_mem_outcomes {group : Group}
    (begin_all : ∀ rule ∈ group.allRules, rule.beginsWithPlace = true) {parent : Value} {path : Path}
    {outcome : Outcome} (made : outcome ∈ group.outcomes parent path) :
    path.text.toList <+: outcome.label.toList := by
  obtain ⟨rule, listed, node, steps, _, own⟩ := exists_rule_of_mem_outcomes made
  exact (path.text_prefix_append steps).trans
    (rule.place_prefix_of_mem_outcome? (begin_all rule listed) own)

def labelsAt (rules : List Rule) (children : List Group) (selected : Value × Path) : List String :=
  (rules.filterMap (·.outcome? selected.1 selected.2) ++
    children.flatMap (·.outcomes selected.1 selected.2)).map Outcome.label

theorem place_prefix_of_mem_labelsAt {rules : List Rule} {children : List Group}
    (own : ∀ rule ∈ rules, rule.beginsWithPlace = true)
    (below : ∀ child ∈ children, ∀ rule ∈ child.allRules, rule.beginsWithPlace = true)
    {node : Value} {place : Path} {label : String}
    (member : label ∈ labelsAt rules children (node, place)) :
    place.text.toList <+: label.toList := by
  obtain ⟨outcome, made, rfl⟩ := List.mem_map.mp member
  rcases List.mem_append.mp made with here | further
  · obtain ⟨rule, listed, made⟩ := List.mem_filterMap.mp here
    exact rule.place_prefix_of_mem_outcome? (own rule listed) made
  · obtain ⟨child, listed, made⟩ := List.mem_flatMap.mp further
    exact place_prefix_of_mem_outcomes (below child listed) made

theorem map_label_outcomes (name : String) (scope : Scope) (precondition : Option Rule)
    (rules : List Rule) (children : List Group) (parent : Value) (path : Path) :
    ((mk name scope precondition rules children).outcomes parent path).map Outcome.label =
      let gate := precondition.bind (·.outcome? parent path)
      gate.toList.map Outcome.label ++
        if gate.all Outcome.passed then
          (scope.nodes parent path).flatMap (labelsAt rules children)
        else [] := by
  rw [outcomes, List.map_append, apply_ite (List.map Outcome.label), List.map_flatMap]
  simp only [outcomesOfAll_eq_flatMap]
  rfl

theorem labelsAt_havePatterns {rules : List Rule} {children : List Group} {node : Value}
    {place : Path}
    (distinct : (rules.map (·.pattern place.shape) ++ patternsOfAll children place.shape).Nodup)
    (each : ∀ child ∈ children, (child.patterns place.shape).Nodup →
      HavePatterns (child.patterns place.shape) ((child.outcomes node place).map Outcome.label)) :
    HavePatterns (rules.map (·.pattern place.shape) ++ patternsOfAll children place.shape)
      (labelsAt rules children (node, place)) := by
  have further (below : (patternsOfAll children place.shape).Nodup) :
      HavePatterns (patternsOfAll children place.shape)
        ((children.flatMap (·.outcomes node place)).map Outcome.label) := by
    clear distinct
    induction children with
    | nil => exact .nil _
    | cons child rest ih =>
      have apart := List.nodup_append.mp below
      have first := each child List.mem_cons_self apart.1
      have others := ih (fun child member => each child (List.mem_cons_of_mem _ member)) apart.2.1
      simpa [patternsOfAll] using HavePatterns.append below first others
  have own := HavePatterns.ofRules rules node place
  have apart := List.nodup_append.mp distinct
  simp only [Rule.pattern_shape] at distinct apart ⊢
  rw [labelsAt, List.map_append]
  exact .append distinct (own apart.1) (further apart.2.1)

-- Labels at two elements begin with places of different indices.
theorem nodes_apart {scope : Scope} {rules : List Rule} {children : List Group}
    (begin_all : scope.isEach = true → (∀ rule ∈ rules, rule.beginsWithPlace = true) ∧
      ∀ child ∈ children, ∀ rule ∈ child.allRules, rule.beginsWithPlace = true)
    (parent : Value) (path : Path) :
    (scope.nodes parent path).Pairwise fun first second =>
      ∀ label ∈ labelsAt rules children first, label ∉ labelsAt rules children second := by
  cases scope with
  | current => simp [Scope.nodes]
  | field name => cases found : (parent.field name).value? <;> simp [Scope.nodes, found]
  | each name =>
    obtain ⟨own, below⟩ := begin_all rfl
    rw [List.pairwise_iff_getElem]
    intro i j _ _ less label here there
    simp only [Scope.nodes, List.getElem_mapIdx] at here there
    have first := place_prefix_of_mem_labelsAt own below here
    have second := place_prefix_of_mem_labelsAt own below there
    rw [List.append_cons] at first second
    exact Nat.ne_of_lt less (Path.index_eq_of_prefix first second)

/-- The labels of a rule tree are different where its patterns are. -/
theorem labels_havePatterns (group : Group) (parent : Value) (path : Path)
    (distinct : (group.patterns path.shape).Nodup) (tells : group.tellsElements = true) :
    HavePatterns (group.patterns path.shape) ((group.outcomes parent path).map Outcome.label) := by
  induction group generalizing parent path with
  | mk name scope precondition rules children ih =>
    obtain ⟨elements, below⟩ := tellsElements_iff.mp tells
    rw [patterns] at distinct ⊢
    have later := (List.nodup_append.mp distinct).2.1
    have gate : HavePatterns (precondition.toList.map (·.pattern path.shape))
        ((precondition.bind (·.outcome? parent path)).toList.map Outcome.label) := by
      cases precondition with
      | none => exact .nil _
      | some rule => simpa [Rule.pattern_shape] using HavePatterns.ofRule rule parent path
    have nodes : HavePatterns (rules.map (·.pattern (scope.shapeBelow path.shape)) ++
          patternsOfAll children (scope.shapeBelow path.shape))
        ((scope.nodes parent path).flatMap (labelsAt rules children)) := by
      apply HavePatterns.flatMap _ (nodes_apart elements parent path)
      intro selected member
      have shape : scope.shapeBelow path.shape = selected.2.shape :=
        (Scope.shape_of_mem_nodes member).symm
      rw [shape] at later ⊢
      exact labelsAt_havePatterns later fun child listed distinct =>
        ih child listed selected.1 selected.2 distinct (below child listed)
    have opened (isOpen : Bool) : HavePatterns (rules.map (·.pattern (scope.shapeBelow path.shape)) ++
          patternsOfAll children (scope.shapeBelow path.shape))
        (if isOpen then (scope.nodes parent path).flatMap (labelsAt rules children) else []) := by
      cases isOpen with
      | true => exact nodes
      | false => exact .nil _
    have all := HavePatterns.append distinct gate
      (opened ((precondition.bind (·.outcome? parent path)).all Outcome.passed))
    rwa [map_label_outcomes]

end Group

end OrdersContract
