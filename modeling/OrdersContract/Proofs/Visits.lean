import OrdersContract.Proofs.Fields
import OrdersContract.Proofs.Labels
import OrdersContract.Rule.Check

/-!
Which rules are visited on a document, at which nodes and in which order, said without the walk that
does so.
-/

set_option autoImplicit false

namespace OrdersContract

open Json

/-- A rule of a tree: the children on the way to its group, and its place there. -/
inductive Occurrence where
  | precondition
  | rule (index : Nat)
  | child (index : Nat) (below : Occurrence)
deriving DecidableEq

def Group.ruleAt? (group : Group) : Occurrence → Option Rule
  | .precondition => group.precondition
  | .rule index => group.rules[index]?
  | .child index below => group.children[index]?.bind (·.ruleAt? below)

/-- The way to a visit: an occurrence with the number of the node taken in each scope. -/
inductive Itinerary where
  | precondition
  | rule (node index : Nat)
  | child (node index : Nat) (below : Itinerary)
deriving DecidableEq

namespace Itinerary

def occurrence : Itinerary → Occurrence
  | precondition => .precondition
  | rule _ index => .rule index
  | child _ index below => .child index below.occurrence

-- Depth first: a precondition, then node by node the rules and after them the children.
def Before : Itinerary → Itinerary → Prop
  | precondition, precondition => False
  | precondition, _ => True
  | _, precondition => False
  | rule i r, rule j s => i < j ∨ i = j ∧ r < s
  | rule i _, child j _ _ => i ≤ j
  | child i _ _, rule j _ => i < j
  | child i c below, child j d other => i < j ∨ i = j ∧ (c < d ∨ c = d ∧ below.Before other)

def node? : Itinerary → Option Nat
  | precondition => none
  | rule node _ => some node
  | child node _ _ => some node

theorem precondition_before {itinerary : Itinerary} {i : Nat} (at_node : itinerary.node? = some i) :
    precondition.Before itinerary := by
  cases itinerary with
  | precondition => simp [node?] at at_node
  | rule node index => trivial
  | child node index below => trivial

theorem before_of_node_lt {first second : Itinerary} {i j : Nat} (early : first.node? = some i)
    (late : second.node? = some j) (less : i < j) : first.Before second := by
  cases first <;> cases second <;> simp_all [node?, Before]
  all_goals omega

theorem before_irrefl (itinerary : Itinerary) : ¬ itinerary.Before itinerary := by
  induction itinerary with
  | precondition => exact id
  | rule node index => simp [Before]
  | child node index below ih => simp [Before, ih]

end Itinerary

structure Visit where
  itinerary : Itinerary
  rule : Rule
  node : Value
  path : Path

namespace Visit

def site (visit : Visit) : Occurrence × Path := (visit.itinerary.occurrence, visit.path)

def Before (first second : Visit) : Prop := first.itinerary.Before second.itinerary

def below (node index : Nat) (visit : Visit) : Visit :=
  { visit with itinerary := .child node index visit.itinerary }

def outcome (visit : Visit) : Outcome := visit.rule.outcome visit.node visit.path

structure Yields (visit : Visit) (outcome : Outcome) : Prop where
  label : Fills visit.path.text.toList visit.rule.label.toList outcome.label.toList
  passed : outcome.passed = visit.rule.evaluate visit.node
  detail : outcome.detail = if outcome.passed then none else visit.rule.detail.map (· visit.node)

@[simp] theorem outcome_passed (visit : Visit) :
    visit.outcome.passed = visit.rule.evaluate visit.node := by
  cases holds : visit.rule.evaluate visit.node <;>
    simp [outcome, Rule.outcome, holds, Outcome.pass, Outcome.fail]

theorem yields_outcome (visit : Visit) : visit.Yields visit.outcome where
  label := by
    have same : visit.outcome.label = visit.rule.labelAt visit.path := by
      cases holds : visit.rule.evaluate visit.node <;>
        simp [outcome, Rule.outcome, holds, Outcome.pass, Outcome.fail]
    rw [same]
    exact visit.rule.labelAt_fills visit.path
  passed := visit.outcome_passed
  detail := by
    rw [visit.outcome_passed]
    cases holds : visit.rule.evaluate visit.node <;>
      simp [outcome, Rule.outcome, holds, Outcome.pass, Outcome.fail]

end Visit

inductive Scope.Leads : Scope → Value → Path → Nat → Value → Path → Prop where
  | current (parent : Value) (path : Path) : Leads .current parent path 0 parent path
  | field {members : List (String × Value)} {name : String} {node : Value} (path : Path)
      (found : members.lookup name = some node) (filled : node ≠ .null) :
      Leads (.field name) (.object members) path 0 node (path ++ [.field name])
  | each {members : List (String × Value)} {name : String} {elements : List Value} {i : Nat}
      {node : Value} (path : Path) (found : members.lookup name = some (.array elements))
      (within : elements[i]? = some node) :
      Leads (.each name) (.object members) path i node (path ++ [.field name, .index i])

/-- The precondition is no obstacle: there is none, it is not about the parent, or it holds. -/
def Group.IsOpen (group : Group) (parent : Value) : Prop :=
  ∀ rule, group.precondition = some rule → rule.appliesTo parent = true → rule.evaluate parent = true

inductive Group.Visited : Group → Value → Path → Visit → Prop where
  | precondition {group : Group} {parent : Value} {path : Path} {rule : Rule}
      (listed : group.precondition = some rule) (applies : rule.appliesTo parent = true) :
      Visited group parent path ⟨.precondition, rule, parent, path⟩
  | rule {group : Group} {parent node : Value} {path place : Path} {i r : Nat} {rule : Rule}
      (isOpen : group.IsOpen parent) (leads : group.scope.Leads parent path i node place)
      (listed : group.rules[r]? = some rule) (applies : rule.appliesTo node = true) :
      Visited group parent path ⟨.rule i r, rule, node, place⟩
  | child {group child : Group} {parent node : Value} {path place : Path} {i c : Nat}
      {visit : Visit} (isOpen : group.IsOpen parent)
      (leads : group.scope.Leads parent path i node place)
      (listed : group.children[c]? = some child) (visited : Visited child node place visit) :
      Visited group parent path (visit.below i c)

theorem Scope.nodes_getElem?_iff (scope : Scope) (parent : Value) (path : Path) (i : Nat)
    (node : Value) (place : Path) :
    (scope.nodes parent path)[i]? = some (node, place) ↔ scope.Leads parent path i node place := by
  cases scope with
  | current =>
    constructor
    · intro found
      cases i with
      | zero =>
        simp only [nodes, List.getElem?_cons_zero, Option.some.injEq, Prod.mk.injEq] at found
        obtain ⟨rfl, rfl⟩ := found
        exact .current parent path
      | succ i => simp [nodes] at found
    · rintro ⟨⟩
      rfl
  | field name =>
    constructor
    · intro found
      cases here : (parent.field name).value? with
      | none => simp [nodes, here] at found
      | some value =>
        obtain ⟨looked, filled⟩ := Value.field_value?_eq_some_iff.mp here
        obtain ⟨members, rfl, looked⟩ := Value.get?_eq_some_iff.mp looked
        cases i with
        | zero =>
          simp only [nodes, here, Option.map_some, Option.toList_some, List.getElem?_cons_zero,
            Option.some.injEq, Prod.mk.injEq] at found
          obtain ⟨rfl, rfl⟩ := found
          exact .field path looked filled
        | succ i => simp [nodes, here] at found
    · rintro (_ | ⟨_, looked, filled⟩)
      have here := Value.field_value?_eq_some_iff.mpr
        ⟨Value.get?_eq_some_iff.mpr ⟨_, rfl, looked⟩, filled⟩
      simp [nodes, here]
  | each name =>
    simp only [nodes, List.getElem?_mapIdx, Option.map_eq_some_iff, Prod.mk.injEq]
    constructor
    · rintro ⟨element, listed, rfl, rfl⟩
      obtain ⟨items, held, within⟩ := Value.elements_getElem?_eq_some_iff.mp listed
      obtain ⟨members, rfl, looked⟩ := Value.get?_eq_some_iff.mp held
      exact .each path looked within
    · rintro (_ | _ | ⟨_, looked, within⟩)
      refine ⟨node, ?_, rfl, rfl⟩
      exact Value.elements_getElem?_eq_some_iff.mpr
        ⟨_, Value.get?_eq_some_iff.mpr ⟨_, rfl, looked⟩, within⟩

namespace Scope

theorem Leads.path_prefix {scope : Scope} {parent node : Value} {path place : Path} {i : Nat}
    (leads : scope.Leads parent path i node place) : path <+: place := by
  cases leads with
  | current => exact List.prefix_rfl
  | field => exact List.prefix_append ..
  | each => exact List.prefix_append ..

theorem Leads.follow?_eq {scope : Scope} {root parent node : Value} {path place : Path} {i : Nat}
    (leads : scope.Leads parent path i node place) (start : path.follow? root = some parent) :
    place.follow? root = some node := by
  cases leads with
  | current => exact start
  | field _ found filled =>
    simp only [Path.follow?] at start
    have here := Value.field_value?_eq_some_iff.mpr
      ⟨Value.get?_eq_some_iff.mpr ⟨_, rfl, found⟩, filled⟩
    simp [Path.follow?, start, Path.Step.follow?, here]
  | each _ found within =>
    simp only [Path.follow?] at start
    have here := Value.field_value?_eq_some_iff.mpr
      ⟨Value.get?_eq_some_iff.mpr ⟨_, rfl, found⟩, by simp⟩
    simp [Path.follow?, start, Path.Step.follow?, here, Value.items?, within]

theorem Leads.unique {scope : Scope} {parent node other : Value} {path place otherPlace finish : Path}
    {i j : Nat} (leads : scope.Leads parent path i node place)
    (others : scope.Leads parent path j other otherPlace)
    (toEnd : place <+: finish) (otherToEnd : otherPlace <+: finish) :
    i = j ∧ node = other ∧ place = otherPlace := by
  have same (long : place.length = otherPlace.length) : place = otherPlace :=
    (List.prefix_of_prefix_length_le toEnd otherToEnd (Nat.le_of_eq long)).eq_of_length long
  cases leads with
  | current =>
    cases others
    exact ⟨rfl, rfl, rfl⟩
  | field _ found =>
    cases others with
    | field _ alsoFound =>
      obtain rfl := Option.some.inj (found.symm.trans alsoFound)
      exact ⟨rfl, rfl, rfl⟩
  | each _ found within =>
    cases others with
    | each _ alsoFound alsoWithin =>
      have steps := List.append_cancel_left (same (by simp))
      simp only [List.cons.injEq, Step.index.injEq, true_and, and_true] at steps
      subst steps
      obtain ⟨rfl⟩ := Option.some.inj (found.symm.trans alsoFound)
      obtain rfl := Option.some.inj (within.symm.trans alsoWithin)
      exact ⟨rfl, rfl, rfl⟩

end Scope

namespace Group

@[induction_eliminator]
theorem induction {motive : Group → Prop}
    (mk : ∀ (name : String) (scope : Scope) (precondition : Option Rule) (rules : List Rule)
      (children : List Group), (∀ child ∈ children, motive child) →
        motive (mk name scope precondition rules children)) : ∀ group, motive group
  | .mk _ _ _ _ children =>
    mk _ _ _ _ children fun child member =>
      have : sizeOf child < sizeOf children := List.sizeOf_lt_of_mem member
      induction mk child

theorem Visited.ruleAt?_eq {group : Group} {parent : Value} {path : Path} {visit : Visit}
    (visited : group.Visited parent path visit) :
    group.ruleAt? visit.itinerary.occurrence = some visit.rule := by
  induction visited with
  | precondition listed applies => exact listed
  | rule isOpen leads listed applies => exact listed
  | child isOpen leads listed visited ih =>
    simpa [ruleAt?, Visit.below, Itinerary.occurrence, listed] using ih

theorem Visited.path_prefix {group : Group} {parent : Value} {path : Path} {visit : Visit}
    (visited : group.Visited parent path visit) : path <+: visit.path := by
  induction visited with
  | precondition listed applies => exact List.prefix_rfl
  | rule isOpen leads listed applies => exact leads.path_prefix
  | child isOpen leads listed visited ih => exact leads.path_prefix.trans ih

theorem Visited.follow?_eq {group : Group} {root parent : Value} {path : Path} {visit : Visit}
    (visited : group.Visited parent path visit) (start : path.follow? root = some parent) :
    visit.path.follow? root = some visit.node := by
  induction visited with
  | precondition listed applies => exact start
  | rule isOpen leads listed applies => exact leads.follow?_eq start
  | child isOpen leads listed visited ih => exact ih (leads.follow?_eq start)

theorem Visited.itinerary_eq {group : Group} {parent : Value} {path : Path} {first second : Visit}
    (visited : group.Visited parent path first) (again : group.Visited parent path second)
    (same : first.site = second.site) : first.itinerary = second.itinerary := by
  obtain ⟨sameOccurrence, samePath⟩ := Prod.mk.inj same
  induction visited generalizing second with
  | precondition =>
    cases again with
    | precondition => rfl
    | rule => contradiction
    | child => contradiction
  | rule _ leads =>
    cases again with
    | precondition => contradiction
    | rule _ others =>
      simp only at samePath
      obtain ⟨rfl, _⟩ := leads.unique others List.prefix_rfl (samePath ▸ List.prefix_rfl)
      cases sameOccurrence
      rfl
    | child => contradiction
  | child _ leads listed below ih =>
    cases again with
    | precondition => contradiction
    | rule => contradiction
    | child _ others alsoListed alsoBelow =>
      obtain ⟨rfl, rfl, rfl⟩ := leads.unique others below.path_prefix
        (samePath ▸ alsoBelow.path_prefix)
      obtain ⟨rfl, sameBelow⟩ := Occurrence.child.inj sameOccurrence
      obtain rfl := Option.some.inj (listed.symm.trans alsoListed)
      have further := ih alsoBelow (Prod.ext sameBelow samePath) sameBelow samePath
      exact congrArg (Itinerary.child _ _) further

end Group

end OrdersContract
