import Mathlib.Data.List.Forall2
import OrdersContract.Proofs.Visits

set_option autoImplicit false

namespace OrdersContract

open Json

namespace Group

def gateVisit? (precondition : Option Rule) (parent : Value) (path : Path) : Option Visit :=
  (precondition.filter (·.appliesTo parent)).map fun rule =>
    ⟨.precondition, rule, parent, path⟩

def ruleVisit? (node : Value) (place : Path) (i r : Nat) (rule : Rule) : Option Visit :=
  if rule.appliesTo node then some ⟨.rule i r, rule, node, place⟩ else none

mutual

def visits : Group → Value → Path → List Visit
  | mk _ scope precondition rules children, parent, path =>
    let gate := gateVisit? precondition parent path
    gate.toList ++
      if gate.all fun visit => visit.rule.evaluate visit.node then
        (scope.nodes parent path).zipIdx.flatMap fun ((node, place), i) =>
          (rules.zipIdx.filterMap fun (rule, r) => ruleVisit? node place i r rule) ++
            visitsOfAll children i 0 node place
      else []
  termination_by structural group => group

def visitsOfAll : List Group → Nat → Nat → Value → Path → List Visit
  | [], _, _, _, _ => []
  | group :: rest, i, c, node, path =>
    (group.visits node path).map (Visit.below i c) ++ visitsOfAll rest i (c + 1) node path
  termination_by structural groups => groups

end

theorem visitsOfAll_eq_flatMap (groups : List Group) (i c : Nat) (node : Value) (path : Path) :
    visitsOfAll groups i c node path =
      (groups.zipIdx c).flatMap fun (group, c) => (group.visits node path).map (.below i c) := by
  induction groups generalizing c with
  | nil => rfl
  | cons group rest ih => simp [visitsOfAll, ih]

theorem outcome?_eq_gateVisit? (precondition : Option Rule) (parent : Value) (path : Path) :
    precondition.bind (·.outcome? parent path) =
      (gateVisit? precondition parent path).map Visit.outcome := by
  cases precondition with
  | none => rfl
  | some rule =>
    by_cases applies : rule.appliesTo parent <;>
      simp [Rule.outcome?, gateVisit?, applies, Visit.outcome, Option.filter]

theorem outcome?_eq_ruleVisit? (node : Value) (place : Path) (i r : Nat) (rule : Rule) :
    rule.outcome? node place = (ruleVisit? node place i r rule).map Visit.outcome := by
  by_cases applies : rule.appliesTo node <;>
    simp [Rule.outcome?, ruleVisit?, applies, Visit.outcome]

theorem filterMap_outcome? (rules : List Rule) (node : Value) (place : Path) (i : Nat) :
    rules.filterMap (·.outcome? node place) =
      (rules.zipIdx.filterMap fun (rule, r) => ruleVisit? node place i r rule).map Visit.outcome := by
  conv_lhs => rw [← List.zipIdx_map_fst 0 rules, List.filterMap_map]
  rw [List.map_filterMap]
  exact List.filterMap_congr fun numbered _ => outcome?_eq_ruleVisit? node place i _ numbered.1

theorem flatMap_outcomes (children : List Group) (node : Value) (place : Path) (i : Nat)
    (same : ∀ child ∈ children,
      child.outcomes node place = (child.visits node place).map Visit.outcome) :
    children.flatMap (·.outcomes node place) =
      (visitsOfAll children i 0 node place).map Visit.outcome := by
  conv_lhs => rw [← List.zipIdx_map_fst 0 children, List.flatMap_map]
  rw [visitsOfAll_eq_flatMap, List.map_flatMap]
  apply List.flatMap_congr
  rintro ⟨child, c⟩ listed
  rw [same child (List.fst_mem_of_mem_zipIdx listed), List.map_map]
  rfl

theorem flatMap_nodes_outcomes (nodes : List (Value × Path)) (rules : List Rule)
    (children : List Group)
    (same : ∀ child ∈ children, ∀ node place,
      child.outcomes node place = (child.visits node place).map Visit.outcome) :
    (nodes.flatMap fun (node, place) =>
      rules.filterMap (·.outcome? node place) ++ outcomesOfAll children node place) =
      (nodes.zipIdx.flatMap fun ((node, place), i) =>
        (rules.zipIdx.filterMap fun (rule, r) => ruleVisit? node place i r rule) ++
          visitsOfAll children i 0 node place).map Visit.outcome := by
  conv_lhs => rw [← List.zipIdx_map_fst 0 nodes, List.flatMap_map]
  rw [List.map_flatMap]
  apply List.flatMap_congr
  rintro ⟨⟨node, place⟩, i⟩ _
  simp only [List.map_append]
  rw [filterMap_outcome? rules node place i, outcomesOfAll_eq_flatMap,
    flatMap_outcomes children node place i fun child member => same child member node place]

theorem outcomes_eq_map_visits (group : Group) (parent : Value) (path : Path) :
    group.outcomes parent path = (group.visits parent path).map Visit.outcome := by
  induction group generalizing parent path with
  | mk name scope precondition rules children ih =>
    simp only [outcomes, visits, outcome?_eq_gateVisit?,
      flatMap_nodes_outcomes _ rules children ih]
    cases gateVisit? precondition parent path with
    | none => simp
    | some gate => cases holds : gate.rule.evaluate gate.node <;> simp [holds]

theorem isOpen_iff (name : String) (scope : Scope) (precondition : Option Rule)
    (rules : List Rule) (children : List Group) (parent : Value) (path : Path) :
    (mk name scope precondition rules children).IsOpen parent ↔
      (gateVisit? precondition parent path).all (fun visit => visit.rule.evaluate visit.node) := by
  cases precondition with
  | none => simp [IsOpen, Group.precondition, gateVisit?]
  | some rule =>
    by_cases applies : rule.appliesTo parent <;>
      simp [IsOpen, Group.precondition, gateVisit?, applies, Option.filter]

theorem gateVisit?_eq_some_iff (precondition : Option Rule) (parent : Value) (path : Path)
    (visit : Visit) :
    gateVisit? precondition parent path = some visit ↔
      ∃ rule, precondition = some rule ∧ rule.appliesTo parent = true ∧
        ⟨.precondition, rule, parent, path⟩ = visit := by
  simp only [gateVisit?, Option.map_eq_some_iff, Option.filter_eq_some_iff, and_assoc]

theorem mem_ruleVisits_iff (rules : List Rule) (node : Value) (place : Path) (i : Nat)
    (visit : Visit) :
    visit ∈ rules.zipIdx.filterMap (fun (rule, r) => ruleVisit? node place i r rule) ↔
      ∃ r rule, rules[r]? = some rule ∧ rule.appliesTo node = true ∧
        ⟨.rule i r, rule, node, place⟩ = visit := by
  simp only [List.mem_filterMap, ruleVisit?, Option.ite_none_right_eq_some, Option.some.injEq]
  constructor
  · rintro ⟨⟨rule, r⟩, listed, found⟩
    exact ⟨r, rule, List.mk_mem_zipIdx_iff_getElem?.mp listed, found⟩
  · rintro ⟨r, rule, listed, found⟩
    exact ⟨(rule, r), List.mk_mem_zipIdx_iff_getElem?.mpr listed, found⟩

theorem mem_visitsOfAll_iff (children : List Group) (node : Value) (place : Path) (i : Nat)
    (visit : Visit) :
    visit ∈ visitsOfAll children i 0 node place ↔
      ∃ (c : Nat) (child : Group), children[c]? = some child ∧
        ∃ inner ∈ child.visits node place, inner.below i c = visit := by
  simp only [visitsOfAll_eq_flatMap, List.mem_flatMap, List.mem_map]
  constructor
  · rintro ⟨⟨child, c⟩, listed, found⟩
    exact ⟨c, child, List.mk_mem_zipIdx_iff_getElem?.mp listed, found⟩
  · rintro ⟨c, child, listed, found⟩
    exact ⟨(child, c), List.mk_mem_zipIdx_iff_getElem?.mpr listed, found⟩

theorem mem_visits_iff (group : Group) (parent : Value) (path : Path) (visit : Visit) :
    visit ∈ group.visits parent path ↔ group.Visited parent path visit := by
  induction group generalizing parent path visit with
  | mk name scope precondition rules children ih =>
    have opens := isOpen_iff name scope precondition rules children parent path
    simp only [visits, List.mem_append, Option.mem_toList, gateVisit?_eq_some_iff]
    constructor
    · rintro (⟨rule, listed, applies, rfl⟩ | inside)
      · exact .precondition listed applies
      · split at inside
        next isOpen =>
          obtain ⟨⟨⟨node, place⟩, i⟩, numbered, here⟩ := List.mem_flatMap.mp inside
          have leads := (scope.nodes_getElem?_iff parent path i node place).mp
            (List.mk_mem_zipIdx_iff_getElem?.mp numbered)
          rcases List.mem_append.mp here with own | further
          · obtain ⟨r, rule, listed, applies, rfl⟩ := (mem_ruleVisits_iff ..).mp own
            exact .rule (opens.mpr isOpen) leads listed applies
          · obtain ⟨c, child, listed, inner, member, rfl⟩ := (mem_visitsOfAll_iff ..).mp further
            have visited := (ih child (List.mem_of_getElem? listed) node place inner).mp member
            exact .child (opens.mpr isOpen) leads listed visited
        next => simp at inside
    · intro visited
      cases visited with
      | precondition listed applies => exact .inl ⟨_, listed, applies, rfl⟩
      | @rule _ _ node _ place i r rule isOpen leads listed applies =>
        right
        rw [if_pos (opens.mp isOpen), List.mem_flatMap]
        refine ⟨((node, place), i), ?_, List.mem_append_left _ ?_⟩
        · exact List.mk_mem_zipIdx_iff_getElem?.mpr ((scope.nodes_getElem?_iff ..).mpr leads)
        · exact (mem_ruleVisits_iff ..).mpr ⟨r, rule, listed, applies, rfl⟩
      | @child _ child _ node _ place i c inner isOpen leads listed visited =>
        right
        rw [if_pos (opens.mp isOpen), List.mem_flatMap]
        refine ⟨((node, place), i), ?_, List.mem_append_right _ ?_⟩
        · exact List.mk_mem_zipIdx_iff_getElem?.mpr ((scope.nodes_getElem?_iff ..).mpr leads)
        · have member := (ih child (List.mem_of_getElem? listed) node place inner).mpr visited
          exact (mem_visitsOfAll_iff ..).mpr ⟨c, child, listed, inner, member, rfl⟩

theorem zipIdx_pairwise {α : Type} (items : List α) :
    items.zipIdx.Pairwise fun first second => first.2 < second.2 := by
  rw [← List.pairwise_map (f := Prod.snd), List.zipIdx_map_snd]
  exact List.pairwise_lt_range'

theorem ruleVisits_pairwise (rules : List Rule) (node : Value) (place : Path) (i : Nat) :
    (rules.zipIdx.filterMap fun (rule, r) => ruleVisit? node place i r rule).Pairwise
      Visit.Before := by
  rw [List.pairwise_filterMap]
  refine (zipIdx_pairwise rules).imp ?_
  intro first second less a here b there
  simp only [ruleVisit?, Option.ite_none_right_eq_some, Option.some.injEq] at here there
  obtain ⟨_, rfl⟩ := here
  obtain ⟨_, rfl⟩ := there
  exact .inr ⟨rfl, less⟩

theorem visitsOfAll_pairwise (children : List Group) (node : Value) (place : Path) (i : Nat)
    (ordered : ∀ child ∈ children, (child.visits node place).Pairwise Visit.Before) :
    (visitsOfAll children i 0 node place).Pairwise Visit.Before := by
  rw [visitsOfAll_eq_flatMap, List.pairwise_flatMap]
  constructor
  · rintro ⟨child, c⟩ listed
    rw [List.pairwise_map]
    refine (ordered child (List.fst_mem_of_mem_zipIdx listed)).imp ?_
    intro first second before
    exact .inr ⟨rfl, .inr ⟨rfl, before⟩⟩
  · refine (zipIdx_pairwise children).imp ?_
    intro first second less a here b there
    obtain ⟨inner, _, rfl⟩ := List.mem_map.mp here
    obtain ⟨other, _, rfl⟩ := List.mem_map.mp there
    exact .inr ⟨rfl, .inl less⟩

theorem visits_pairwise (group : Group) (parent : Value) (path : Path) :
    (group.visits parent path).Pairwise Visit.Before := by
  induction group generalizing parent path with
  | mk name scope precondition rules children ih =>
    have atNode (i : Nat) (node : Value) (place : Path) :
        ∀ visit ∈ (rules.zipIdx.filterMap fun (rule, r) => ruleVisit? node place i r rule) ++
          visitsOfAll children i 0 node place, visit.itinerary.node? = some i := by
      intro visit member
      rcases List.mem_append.mp member with own | further
      · obtain ⟨r, rule, _, _, rfl⟩ := (mem_ruleVisits_iff ..).mp own
        rfl
      · obtain ⟨c, child, _, inner, _, rfl⟩ := (mem_visitsOfAll_iff ..).mp further
        rfl
    rw [visits, List.pairwise_append]
    refine ⟨?_, ?_, ?_⟩
    · cases gateVisit? precondition parent path <;> simp
    · split
      next =>
        rw [List.pairwise_flatMap]
        constructor
        · rintro ⟨⟨node, place⟩, i⟩ _
          rw [List.pairwise_append]
          refine ⟨ruleVisits_pairwise rules node place i, visitsOfAll_pairwise children node place i
            fun child member => ih child member node place, ?_⟩
          intro first own second further
          obtain ⟨r, rule, _, _, rfl⟩ := (mem_ruleVisits_iff ..).mp own
          obtain ⟨c, child, _, inner, _, rfl⟩ := (mem_visitsOfAll_iff ..).mp further
          exact Nat.le_refl i
        · refine (zipIdx_pairwise _).imp ?_
          rintro ⟨⟨node, place⟩, i⟩ ⟨⟨other, otherPlace⟩, j⟩ less first here second there
          exact Itinerary.before_of_node_lt (atNode i node place first here)
            (atNode j other otherPlace second there) less
      next => exact .nil
    · intro gate opening visit inside
      obtain ⟨rule, _, _, rfl⟩ :=
        (gateVisit?_eq_some_iff ..).mp (Option.mem_toList.mp opening)
      split at inside
      next =>
        obtain ⟨⟨⟨node, place⟩, i⟩, _, here⟩ := List.mem_flatMap.mp inside
        exact Itinerary.precondition_before (atNode i node place visit here)
      next => simp at inside

theorem visits_sites_nodup (group : Group) (parent : Value) (path : Path) :
    ((group.visits parent path).map Visit.site).Nodup := by
  rw [List.nodup_iff_pairwise_ne, List.pairwise_map]
  refine (visits_pairwise group parent path).imp_of_mem ?_
  intro first second here there before same
  have together := Visited.itinerary_eq ((mem_visits_iff ..).mp here)
    ((mem_visits_iff ..).mp there) same
  rw [Visit.Before, together] at before
  exact Itinerary.before_irrefl second.itinerary before

end Group

theorem RuleSet.check_outcomes_of_visits (ruleSet : RuleSet) (document : Value) :
    ∃ visits : List Visit,
      (∀ visit, visit ∈ visits ↔ ruleSet.root.Visited document [] visit) ∧
      visits.Pairwise Visit.Before ∧ (visits.map Visit.site).Nodup ∧
      (∀ visit ∈ visits, ruleSet.root.ruleAt? visit.itinerary.occurrence = some visit.rule ∧
        visit.path.follow? document = some visit.node) ∧
      List.Forall₂ Visit.Yields visits (ruleSet.check document).outcomes ∧
      (ruleSet.check document).passCount =
        visits.countP (fun visit => visit.rule.evaluate visit.node) ∧
      (ruleSet.check document).failCount =
        visits.countP fun visit => !visit.rule.evaluate visit.node := by
  have outcomes : (ruleSet.check document).outcomes =
      (ruleSet.root.visits document []).map Visit.outcome :=
    ruleSet.root.outcomes_eq_map_visits document []
  refine ⟨ruleSet.root.visits document [], ruleSet.root.mem_visits_iff document [],
    ruleSet.root.visits_pairwise document [], ruleSet.root.visits_sites_nodup document [],
    ?_, ?_, ?_, ?_⟩
  · intro visit member
    have visited := (ruleSet.root.mem_visits_iff document [] visit).mp member
    exact ⟨visited.ruleAt?_eq, visited.follow?_eq rfl⟩
  · rw [outcomes, List.forall₂_map_right_iff, List.forall₂_same]
    exact fun visit _ => visit.yields_outcome
  · simp only [check, Report.ofOutcomes, Group.outcomes_eq_map_visits, List.countP_map]
    exact List.countP_congr fun visit _ => by simp
  · simp only [check, Report.ofOutcomes_failCount, Group.outcomes_eq_map_visits, List.countP_map]
    exact List.countP_congr fun visit _ => by simp

end OrdersContract
