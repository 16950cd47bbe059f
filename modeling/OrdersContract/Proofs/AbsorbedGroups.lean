import Mathlib.Data.List.Basic
import Mathlib.Logic.Relation
import Mathlib.Order.WellFounded
import OrdersContract.Contract.MajorUnits
import OrdersContract.Proofs.GroupOutcomes
import OrdersContract.Proofs.Visits

/-!
Rule trees that are put together in another way and record the same. A first child that is about the
nodes of its own group and has no precondition can be taken into that group, anywhere in a tree and
until there is no such child left. Names of groups are recorded nowhere.
-/

set_option autoImplicit false

namespace OrdersContract

open Json Relation

namespace Group

/-- A group takes its first child in: the rules of the child come behind its own, the children of the
child in front of the others. -/
inductive Absorbs : Group → Group → Prop where
  | first (name inner : String) (scope : Scope) (precondition : Option Rule) (rules more : List Rule)
      (below rest : List Group) :
      Absorbs (mk name scope precondition rules (mk inner .current none more below :: rest))
        (mk name scope precondition (rules ++ more) (below ++ rest))

inductive Renames : Group → Group → Prop where
  | name (name other : String) (scope : Scope) (precondition : Option Rule) (rules : List Rule)
      (children : List Group) :
      Renames (mk name scope precondition rules children)
        (mk other scope precondition rules children)

/-- One group of a tree is changed, at any depth, and everything around it stays. -/
inductive Within (change : Group → Group → Prop) : Group → Group → Prop where
  | here {group other : Group} (changed : change group other) : Within change group other
  | inside {child other : Group} (name : String) (scope : Scope) (precondition : Option Rule)
      (rules : List Rule) (front back : List Group) (deeper : Within change child other) :
      Within change (mk name scope precondition rules (front ++ child :: back))
        (mk name scope precondition rules (front ++ other :: back))

def SameOutcomes (group other : Group) : Prop :=
  ∀ (parent : Value) (path : Path), group.outcomes parent path = other.outcomes parent path

def SameReports (group other : Group) : Prop :=
  ∀ (name otherName : String) (document : Value),
    (RuleSet.mk name group).check document = (RuleSet.mk otherName other).check document

-- A precondition and a scope are looked at before what is below them.
theorem sameOutcomes_of_outcomesAt {group other : Group} (scope : group.scope = other.scope)
    (precondition : group.precondition = other.precondition)
    (each : ∀ node place, group.outcomesAt node place = other.outcomesAt node place) :
    SameOutcomes group other := by
  intro parent path
  have below : group.outcomesBelow parent path = other.outcomesBelow parent path := by
    rw [outcomesBelow, outcomesBelow, scope]
    exact List.flatMap_congr fun selected _ => each selected.1 selected.2
  rw [outcomes_eq, outcomes_eq, precondition, below]

theorem Absorbs.sameOutcomes {group other : Group} (absorbed : Absorbs group other) :
    SameOutcomes group other := by
  cases absorbed with
  | first name inner scope precondition rules more below rest =>
    refine sameOutcomes_of_outcomesAt rfl rfl ?_
    intro node place
    have child : (mk inner .current none more below).outcomes node place =
        more.filterMap (·.outcome? node place) ++ below.flatMap (·.outcomes node place) := by
      rw [outcomes_of_ungated rfl, outcomesBelow_current rfl]
      rfl
    simp only [outcomesAt, Group.rules, Group.children, List.flatMap_cons, List.flatMap_append,
      List.filterMap_append, child, List.append_assoc]

theorem Renames.sameOutcomes {group other : Group} (renamed : Renames group other) :
    SameOutcomes group other := by
  cases renamed with
  | name => exact sameOutcomes_of_outcomesAt rfl rfl fun _ _ => rfl

theorem Within.sameOutcomes {change : Group → Group → Prop}
    (same : ∀ group other, change group other → SameOutcomes group other) {group other : Group}
    (inner : Within change group other) : SameOutcomes group other := by
  induction inner with
  | here changed => exact same _ _ changed
  | inside name scope precondition rules front back _ ih =>
    refine sameOutcomes_of_outcomesAt rfl rfl ?_
    intro node place
    simp only [outcomesAt, Group.rules, Group.children, List.flatMap_append, List.flatMap_cons,
      ih node place]

theorem SameOutcomes.sameReports {group other : Group} (same : SameOutcomes group other) :
    SameReports group other := by
  intro name otherName document
  rw [RuleSet.check, RuleSet.check, same]

theorem sameReports_of_steps {change : Group → Group → Prop}
    (same : ∀ group other, change group other → SameOutcomes group other) {group other : Group}
    (steps : ReflTransGen (Within change) group other) : SameReports group other := by
  induction steps with
  | refl => exact fun _ _ _ => rfl
  | tail _ step ih =>
    intro name otherName document
    exact (ih name otherName document).trans
      ((step.sameOutcomes same).sameReports otherName otherName document)

mutual

def count : Group → Nat
  | mk _ _ _ _ children => countOfAll children + 1
  termination_by structural group => group

def countOfAll : List Group → Nat
  | [] => 0
  | group :: rest => group.count + countOfAll rest
  termination_by structural groups => groups

end

theorem countOfAll_append (front back : List Group) :
    countOfAll (front ++ back) = countOfAll front + countOfAll back := by
  induction front with
  | nil => simp [countOfAll]
  | cons group rest ih => simp [countOfAll, ih, Nat.add_assoc]

theorem Within.count_eq {group other : Group} (absorbed : Within Absorbs group other) :
    group.count = other.count + 1 := by
  induction absorbed with
  | here absorbed =>
    cases absorbed with
    | first => simp only [count, countOfAll, countOfAll_append]; omega
  | inside name scope precondition rules front back _ ih =>
    simp only [count, countOfAll, countOfAll_append]
    omega

theorem absorbs_wellFounded : WellFounded fun other group => Within Absorbs group other := by
  have smaller : Subrelation (fun other group => Within Absorbs group other)
      (InvImage (· < ·) count) := by
    intro other group absorbed
    have counted := absorbed.count_eq
    simp only [InvImage]
    omega
  exact smaller.wf (InvImage.wf count Nat.lt_wfRel.wf)

def IsLoose (group : Group) : Prop := group.scope = .current ∧ group.precondition = none

inductive Settled : Group → Prop where
  | mk {name : String} {scope : Scope} {precondition : Option Rule} {rules : List Rule}
      {children : List Group} (own : ∀ child ∈ children.head?, ¬child.IsLoose)
      (below : ∀ child ∈ children, Settled child) :
      Settled (mk name scope precondition rules children)

theorem Settled.not_within {group other : Group} (settled : group.Settled) :
    ¬Within Absorbs group other := by
  intro absorbed
  induction absorbed with
  | here absorbed =>
    cases absorbed with
    | first =>
      cases settled with
      | mk own _ => exact own _ rfl ⟨rfl, rfl⟩
  | inside name scope precondition rules front back _ ih =>
    cases settled with
    | mk _ below => exact ih (below _ (List.mem_append_right _ List.mem_cons_self))

theorem settled_of_not_within {group : Group} (none : ∀ other, ¬Within Absorbs group other) :
    group.Settled := by
  induction group with
  | mk name scope precondition rules children ih =>
    constructor
    · intro child first loose
      obtain ⟨inner, _, _, more, below⟩ := child
      obtain ⟨rfl, rfl⟩ := loose
      obtain ⟨rest, rfl⟩ := List.head?_eq_some_iff.mp first
      exact none _ (.here (.first name inner scope precondition rules more below rest))
    · intro child listed
      apply ih child listed
      intro other absorbed
      obtain ⟨front, back, rfl⟩ := List.append_of_mem listed
      exact none _ (.inside name scope precondition rules front back absorbed)

theorem settled_of_leaf {group : Group} (leaf : group.children = []) : group.Settled := by
  obtain ⟨_, _, _, _, _⟩ := group
  obtain rfl := leaf
  exact .mk (by simp) (by simp)

theorem settled_iff {group : Group} : group.Settled ↔ ∀ other, ¬Within Absorbs group other :=
  ⟨fun settled _ => settled.not_within, settled_of_not_within⟩

theorem exists_settled (group : Group) :
    ∃ other, ReflTransGen (Within Absorbs) group other ∧ other.Settled := by
  induction group using absorbs_wellFounded.induction with
  | _ group ih =>
    by_cases settled : group.Settled
    next => exact ⟨group, .refl, settled⟩
    next =>
      rw [settled_iff, not_forall_not] at settled
      obtain ⟨next, absorbed⟩ := settled
      obtain ⟨other, steps, done⟩ := ih next absorbed
      exact ⟨other, .head absorbed steps, done⟩

/--
A tree gives the same reports when a group anywhere in it takes in a loose first child. Doing so ends
however it is repeated: it can go on until no group has such a child, then it has to stop, and all
trees on the way give the same reports. So do trees that differ in the names of groups.
-/
theorem absorbing_keeps_reports :
    (∀ group other, Within Absorbs group other → SameReports group other) ∧
    (WellFounded fun other group => Within Absorbs group other) ∧
    (∀ group, ∃ other, ReflTransGen (Within Absorbs) group other ∧ other.Settled) ∧
    (∀ group other, ReflTransGen (Within Absorbs) group other →
      SameReports group other ∧ (other.Settled ↔ ¬∃ next, Within Absorbs other next)) ∧
    ∀ group other, ReflTransGen (Within Renames) group other → SameReports group other := by
  have absorbed : ∀ group other, Absorbs group other → SameOutcomes group other :=
    fun _ _ absorbed => absorbed.sameOutcomes
  have renamed : ∀ group other, Renames group other → SameOutcomes group other :=
    fun _ _ renamed => renamed.sameOutcomes
  refine ⟨?_, absorbs_wellFounded, exists_settled, ?_, ?_⟩
  · intro group other step
    exact (step.sameOutcomes absorbed).sameReports
  · intro group other steps
    refine ⟨sameReports_of_steps absorbed steps, ?_⟩
    rw [settled_iff, not_exists]
  · intro group other steps
    exact sameReports_of_steps renamed steps

section Trees

open Contract Contract.MajorUnits

def looseTree : Group :=
  .mk "response shape" .current (some hasOrders) []
    [.mk "all orders" .current none []
      [.mk "order fields" (.each "orders") none [filledText "order_id"]
        [.mk "texts" .current none [filledText "currency"] [], orderItems]],
      pagination]

def tightOrders : Group :=
  .mk "order fields" (.each "orders") none [filledText "order_id", filledText "currency"]
    [orderItems]

def tightTree (name : String) : Group :=
  .mk name .current (some hasOrders) [] [tightOrders, pagination]

theorem looseTree_absorbs :
    ReflTransGen (Within Absorbs) looseTree (tightTree "response shape") := by
  refine .head (.here (.first ..)) (.single ?_)
  exact .inside "response shape" .current (some hasOrders) [] [] [pagination]
    (.here (.first "order fields" "texts" (.each "orders") none [filledText "order_id"]
      [filledText "currency"] [] [orderItems]))

theorem tightTree_settled (name : String) : (tightTree name).Settled := by
  have items : orderItems.Settled := by
    refine .mk (by simp [IsLoose, itemFields, Group.scope]) ?_
    simpa using settled_of_leaf rfl
  have orders : tightOrders.Settled := by
    refine .mk (by simp [IsLoose, orderItems, Group.precondition]) ?_
    simpa using items
  refine .mk (by simp [IsLoose, tightOrders, Group.scope]) ?_
  simpa using ⟨orders, settled_of_leaf rfl⟩

theorem looseTree_tightened :
    let document : Value := .object [("orders", .array [.null,
      .object [("order_id", .string "o-1"), ("items", .array [.null])]])]
    ReflTransGen (Within Absorbs) looseTree (tightTree "response shape") ∧
      (tightTree "response shape").Settled ∧
      (¬∃ next, Within Absorbs (tightTree "response shape") next) ∧
      Within Renames (tightTree "response shape") (tightTree "page") ∧
      (RuleSet.mk "major-units" looseTree).check document =
        (RuleSet.mk "page" (tightTree "page")).check document ∧
      ((RuleSet.mk "page" (tightTree "page")).check document).failCount = 13 := by
  intro document
  have renames : Within Renames (tightTree "response shape") (tightTree "page") :=
    .here (.name ..)
  obtain ⟨_, _, _, absorbed, renamed⟩ := absorbing_keeps_reports
  obtain ⟨tightened, stops⟩ := absorbed _ _ looseTree_absorbs
  have whole := (tightened "major-units" "page" document).trans
    (renamed _ _ (.single renames) "page" "page" document)
  have settled := tightTree_settled "response shape"
  exact ⟨looseTree_absorbs, settled, stops.mp settled, renames, whole, by decide +kernel⟩

end Trees

end Group

end OrdersContract
