import OrdersContract.Proofs.Labels
import OrdersContract.Proofs.MajorUnits
import OrdersContract.Proofs.ReadNumbers
import OrdersContract.Proofs.RoundingOrder
import OrdersContract.Proofs.Trees
import OrdersContract.Proofs.UtcTexts

/-!
The order of a page. The check compares numbers: it is right about pages sorted by amount, and it
refuses every page of two orders or more that is sorted by date, since dates are texts.
-/

set_option autoImplicit false

namespace OrdersContract

open Json Number

-- Instants come in the order of these lists.
def Timestamp.fields (t : Timestamp) : List Int :=
  [t.year, t.month, t.day, t.hour, t.minute, t.second]

def Direction.Respects {α : Type} [LE α] (direction : Direction) (before after : α) : Prop :=
  match direction with
  | ascending => before ≤ after
  | descending => after ≤ before

theorem Rule.outcome?_failed_iff (rule : Rule) (node : Value) (path : Path) :
    (∃ outcome ∈ rule.outcome? node path, outcome.passed = false) ↔ ¬ rule.Holds node := by
  rw [← rule.outcome?_passed_iff node path]
  simp

namespace Contract.MajorUnits

def sortedLabel : String := "orders sorted by "

def IsAboutOrder (outcome : Outcome) : Prop := sortedLabel.toList <+: outcome.label.toList

theorem isAboutOrder_of_mem_outcome? {field : String} {direction : Direction} {node : Value}
    {path : Path} {outcome : Outcome}
    (made : outcome ∈ (ordersSorted field direction).outcome? node path) :
    IsAboutOrder outcome := by
  have label : (ordersSorted field direction).label =
      sortedLabel ++ (field ++ " " ++ direction.name) := by
    simp [ordersSorted, orderedRule, sortedLabel, String.append_assoc]
  rw [IsAboutOrder, Rule.labelAt_of_mem_outcome? made]
  exact Rule.prefix_labelAt label (by decide) path

-- Two labels that differ early are not about the same.
theorem not_isAboutOrder_of_prefix {outcome : Outcome} {part : String}
    (begins : part.toList <+: outcome.label.toList)
    (differs : ¬ sortedLabel.toList <+: part.toList ∧ ¬ part.toList <+: sortedLabel.toList) :
    ¬ IsAboutOrder outcome := by
  intro about
  rcases List.prefix_or_prefix_of_prefix about begins with shorter | longer
  · exact differs.1 shorter
  · exact differs.2 longer

theorem not_isAboutOrder_of_label {rule : Rule} (part rest : String) {node : Value} {path : Path}
    {outcome : Outcome} (label : rule.label = part ++ rest) (unmarked : '\x7b' ∉ part.toList)
    (differs : ¬ sortedLabel.toList <+: part.toList ∧ ¬ part.toList <+: sortedLabel.toList)
    (made : outcome ∈ rule.outcome? node path) : ¬ IsAboutOrder outcome := by
  apply not_isAboutOrder_of_prefix _ differs
  rw [Rule.labelAt_of_mem_outcome? made]
  exact Rule.prefix_labelAt label unmarked path

theorem not_isAboutOrder_of_mem_paginationEcho {pageSize : Nat} {node : Value} {outcome : Outcome}
    (made : outcome ∈ (paginationEcho pageSize).outcomes node []) : ¬ IsAboutOrder outcome := by
  rcases Group.mem_outcomes_iff.mp made with
    ⟨rule, listed, own⟩ | ⟨_, below, place, selected, ⟨rule, listed, own⟩ | ⟨_, listed, _⟩⟩
  · obtain rfl : paginationGate = rule := Option.some.inj listed
    exact not_isAboutOrder_of_label "pagination is an object" "" rfl (by decide) (by decide) own
  · -- The label begins with the place, which is not empty.
    obtain ⟨_, rfl⟩ : (node.field "pagination").value? = some below ∧
        [Step.field "pagination"] = place := by
      simpa [paginationEcho, Group.scope, Scope.nodes] using selected
    obtain rfl := List.mem_singleton.mp listed
    have begins : (Path.text [.field "pagination"]).toList <+: outcome.label.toList := by
      rw [Rule.labelAt_of_mem_outcome? own]
      exact Rule.place_prefix_labelAt rfl _
    exact not_isAboutOrder_of_prefix begins (by decide)
  · simp [paginationEcho, Group.children] at listed

theorem mem_pageRules_outcomes_iff {pageSize : Nat} {sort : String} {document : Value}
    {orders : List Value} (found : document.get? "orders" = some (.array orders))
    {outcome : Outcome} (about : IsAboutOrder outcome) :
    outcome ∈ ((pageRules pageSize sort).check document).outcomes ↔
      ∃ field direction, sortOrder? sort = some (field, direction) ∧
        outcome ∈ (ordersSorted field direction).outcome? document [] := by
  have opened : ∀ rule ∈ (pageRules pageSize sort).root.precondition, rule.Holds document := by
    simp [pageRules, Group.precondition, holds_hasOrders_iff, found]
  rw [RuleSet.check, Report.ofOutcomes, Group.mem_outcomes_iff]
  constructor
  · rintro (⟨rule, listed, own⟩ | ⟨_, node, place, selected, ⟨rule, listed, own⟩ | ⟨child, listed, own⟩⟩)
    · obtain rfl : hasOrders = rule := Option.some.inj listed
      exact absurd about (not_isAboutOrder_of_label "response has an \"orders\" array" "" rfl
        (by decide) (by decide) own)
    · obtain ⟨rfl, rfl⟩ : node = document ∧ place = [] := by
        simpa [pageRules, Group.scope, Scope.nodes] using selected
      rcases List.mem_cons.mp listed with rfl | sorted
      · have label : (pageBound pageSize "requested page_size").label =
            "orders count <= " ++ "requested page_size" ++ " (" ++
              (Text.decimalText pageSize ++ ")") :=
          String.append_assoc
        exact absurd about (not_isAboutOrder_of_label _ _ label (by decide) (by decide) own)
      · obtain ⟨⟨field, direction⟩, named, rfl⟩ : ∃ order, sortOrder? sort = some order ∧
            ordersSorted order.1 order.2 = rule := by
          simpa using sorted
        exact ⟨field, direction, named, own⟩
    · obtain ⟨rfl, rfl⟩ : node = document ∧ place = [] := by
        simpa [pageRules, Group.scope, Scope.nodes] using selected
      obtain rfl := List.mem_singleton.mp listed
      exact absurd about (not_isAboutOrder_of_mem_paginationEcho own)
  · rintro ⟨field, direction, named, own⟩
    refine .inr ⟨opened, document, [], List.mem_singleton.mpr rfl, .inl ⟨_, ?_, own⟩⟩
    simp [pageRules, Group.rules, named]

theorem exists_failed_iff (pageSize : Nat) {sort : String} {document : Value}
    {orders : List Value} (found : document.get? "orders" = some (.array orders)) :
    (∃ outcome ∈ ((pageRules pageSize sort).check document).outcomes,
      IsAboutOrder outcome ∧ outcome.passed = false) ↔
      ∃ field direction, sortOrder? sort = some (field, direction) ∧
        ¬ orders.Pairwise fun before after => direction.inOrder field before after = true := by
  have failed (field : String) (direction : Direction) :
      (∃ outcome ∈ (ordersSorted field direction).outcome? document [], outcome.passed = false) ↔
        ¬ orders.Pairwise fun before after => direction.inOrder field before after = true := by
    rw [Rule.outcome?_failed_iff, ordersSorted, holds_orderedRule_iff,
      Value.elements_eq_of_get? found]
  constructor
  · rintro ⟨outcome, made, about, refused⟩
    obtain ⟨field, direction, named, own⟩ := (mem_pageRules_outcomes_iff found about).mp made
    exact ⟨field, direction, named, (failed field direction).mp ⟨outcome, own, refused⟩⟩
  · rintro ⟨field, direction, named, disordered⟩
    obtain ⟨outcome, own, refused⟩ := (failed field direction).mpr disordered
    have about := isAboutOrder_of_mem_outcome? own
    exact ⟨outcome, (mem_pageRules_outcomes_iff found about).mpr ⟨field, direction, named, own⟩,
      about, refused⟩

def CreatedAt (order : Value) (t : Timestamp) : Prop :=
  t.HasUtcText ∧ order.get? "created_at" = some (.string t.utcText)

def Costs (order : Value) (amount : Numeric) : Prop :=
  amount.IsRounded ∧ 0 < amount.value ∧ order.get? "total_amount" = some (.number amount)

-- In a document that is read every amount above zero is one.
theorem costs_of_parse {bytes : List UInt8} {document order : Value} {orders : List Value}
    {amount : Numeric} (read : parse bytes = .ok document)
    (found : document.get? "orders" = some (.array orders)) (listed : order ∈ orders)
    (held : order.get? "total_amount" = some (.number amount)) (positive : 0 < amount.value) :
    Costs order amount :=
  ⟨isRounded_of_parse read found listed held, positive, held⟩

structure Sortable (order : Value) : Prop where
  createdAt : ∃ t, CreatedAt order t
  totalAmount : ∃ amount, Costs order amount

theorem Sortable.meetsContract {order : Value} (sortable : Sortable order) :
    (order.field "created_at").isTimestamp = true ∧
      (order.field "total_amount").isPositiveNumber = true := by
  obtain ⟨⟨t, writable, dated⟩, amount, _, positive, costs⟩ := sortable
  constructor
  · have held := Field.string?_field_iff.mpr dated
    simp [Field.isTimestamp, held, Timestamp.isTimestamp_utcText writable]
  · exact Field.isPositiveNumber_field_iff.mpr ⟨amount, costs, positive⟩

structure InRequestedOrder (sort : String) (before after : Value) : Prop where
  byDate : ∀ direction, sortOrder? sort = some ("created_at", direction) →
    ∀ a b, CreatedAt before a → CreatedAt after b → direction.Respects a.fields b.fields
  byAmount : ∀ direction, sortOrder? sort = some ("total_amount", direction) →
    ∀ a b, Costs before a → Costs after b → direction.Respects a.value b.value

theorem sortOrder?_of_mem_sorts {sort : String} (listed : sort ∈ sorts) :
    ∃ field direction, sortOrder? sort = some (field, direction) ∧
      (field = "created_at" ∨ field = "total_amount") := by
  have all : ∀ sort ∈ sorts, (sortOrder? sort).any fun order =>
      order.1 = "created_at" ∨ order.1 = "total_amount" := by
    decide +kernel
  obtain ⟨⟨field, direction⟩, named, known⟩ := (Option.any_eq_true ..).mp (all sort listed)
  exact ⟨field, direction, named, by simpa using known⟩

theorem not_inOrder_of_createdAt {before after : Value} {t : Timestamp}
    (dated : CreatedAt before t) (direction : Direction) :
    ¬ direction.inOrder "created_at" before after = true := by
  intro ordered
  obtain ⟨_, _, number, _⟩ := Direction.inOrder_iff.mp ordered
  obtain ⟨n, held, _⟩ := Field.number?_field_iff.mp number
  rw [dated.2] at held
  cases held

theorem inOrder_of_costs {before after : Value} {a b : Numeric} (costs : Costs before a)
    (alsoCosts : Costs after b) {direction : Direction}
    (ordered : direction.Respects a.value b.value) :
    direction.inOrder "total_amount" before after = true := by
  obtain ⟨rounded, _, held⟩ := costs
  obtain ⟨alsoRounded, _, alsoHeld⟩ := alsoCosts
  refine Direction.inOrder_iff.mpr ⟨a.toDouble, b.toDouble, Field.number?_field_iff.mpr ⟨a, held, rfl⟩,
    Field.number?_field_iff.mpr ⟨b, alsoHeld, rfl⟩, ?_⟩
  cases direction with
  | ascending => exact decide_eq_true (Numeric.toDouble_le_toDouble rounded alsoRounded ordered)
  | descending => exact decide_eq_true (Numeric.toDouble_le_toDouble alsoRounded rounded ordered)

theorem pairwise_never_iff {orders : List Value} {related : Value → Value → Prop}
    (never : ∀ before ∈ orders, ∀ after, ¬ related before after) :
    orders.Pairwise related ↔ orders.length ≤ 1 := by
  match orders with
  | [] => simp
  | [_] => simp
  | before :: after :: rest =>
    have unrelated := never before (by simp) after
    simp [unrelated]

theorem pageOrder_refused_iff_byDate (pageSize : Nat) {sort : String} {document : Value}
    {orders : List Value} (listed : sort ∈ sorts)
    (found : document.get? "orders" = some (.array orders))
    (sortable : ∀ order ∈ orders, Sortable order)
    (ordered : orders.Pairwise (InRequestedOrder sort)) :
    (∃ outcome ∈ ((pageRules pageSize sort).check document).outcomes,
      IsAboutOrder outcome ∧ outcome.passed = false) ↔
      (∃ direction, sortOrder? sort = some ("created_at", direction)) ∧ 1 < orders.length := by
  obtain ⟨field, direction, named, known⟩ := sortOrder?_of_mem_sorts listed
  rw [exists_failed_iff pageSize found]
  simp only [named, Option.some.injEq, Prod.mk.injEq]
  rcases known with rfl | rfl
  case inl =>
    have never : ∀ before ∈ orders, ∀ after,
        ¬ direction.inOrder "created_at" before after = true := by
      intro before member after
      obtain ⟨t, dated⟩ := (sortable before member).createdAt
      exact not_inOrder_of_createdAt dated direction
    simp [pairwise_never_iff never]
  case inr =>
    have kept : orders.Pairwise fun before after =>
        direction.inOrder "total_amount" before after = true := by
      refine List.Pairwise.imp_of_mem ?_ ordered
      intro before after member later requested
      obtain ⟨a, costs⟩ := (sortable before member).totalAmount
      obtain ⟨b, alsoCosts⟩ := (sortable after later).totalAmount
      exact inOrder_of_costs costs alsoCosts
        (requested.byAmount direction named a b costs alsoCosts)
    simp [kept]

def newYear (day : Nat) : Timestamp := ⟨2024, 1, day, 0, 0, 0⟩

def wholeNumber (n : Nat) : Numeric := (Integer.ofInt? n).elim (.double (.ofNat n)) .integer

def datedOrder (t : Timestamp) (amount : Nat) : Value :=
  .object [("created_at", .string t.utcText), ("total_amount", .number (wholeNumber amount))]

def newestFirst : List Value := [datedOrder (newYear 2) 2, datedOrder (newYear 1) 1]

def newestFirstPage : Value :=
  .object
    [("orders", .array newestFirst),
      ("pagination", .object [("page_size", .number (wholeNumber 5))])]

theorem newYear_hasUtcText : (newYear 1).HasUtcText ∧ (newYear 2).HasUtcText := by
  decide

theorem datedOrder_sortable {t : Timestamp} {amount : Nat} (writable : t.HasUtcText)
    (positive : 0 < amount) (small : amount < 100) : Sortable (datedOrder t amount) := by
  have fits : -0x8000000000000000 ≤ (amount : Int) ∧ (amount : Int) < 0x10000000000000000 := by
    omega
  have whole : wholeNumber amount = .integer ⟨amount, fits.1, fits.2⟩ := by
    rw [wholeNumber, Integer.ofInt?_of_fits fits]
    rfl
  refine ⟨⟨t, writable, rfl⟩, wholeNumber amount, ?_, ?_, rfl⟩
  · rw [whole]
    exact trivial
  · rw [whole]
    simpa [Numeric.value] using positive

theorem createdAt_datedOrder {t other : Timestamp} {amount : Nat} (writable : t.HasUtcText)
    (dated : CreatedAt (datedOrder t amount) other) : other = t := by
  have held : some (Value.string t.utcText) = some (.string other.utcText) := dated.2
  simp only [Option.some.injEq, Value.string.injEq] at held
  exact Timestamp.utcText_injective dated.1 writable held.symm

theorem newestFirst_sortable : ∀ order ∈ newestFirst, Sortable order := by
  intro order member
  simp only [newestFirst, List.mem_cons, List.not_mem_nil, or_false] at member
  rcases member with rfl | rfl
  · exact datedOrder_sortable newYear_hasUtcText.2 (by decide) (by decide)
  · exact datedOrder_sortable newYear_hasUtcText.1 (by decide) (by decide)

theorem newestFirst_inRequestedOrder :
    newestFirst.Pairwise (InRequestedOrder "created_at:desc") := by
  have named : sortOrder? "created_at:desc" = some ("created_at", .descending) := by
    decide +kernel
  refine List.pairwise_pair.mpr ⟨?_, ?_⟩
  · intro direction asked a b first second
    obtain rfl := createdAt_datedOrder newYear_hasUtcText.2 first
    obtain rfl := createdAt_datedOrder newYear_hasUtcText.1 second
    rw [named] at asked
    obtain ⟨_, rfl⟩ := Prod.mk.inj (Option.some.inj asked)
    change (newYear 1).fields ≤ (newYear 2).fields
    decide
  · intro direction asked
    rw [named] at asked
    simp at asked

theorem newestFirst_refused :
    ¬ ∀ (pageSize : Nat) (sort : String) (document : Value) (orders : List Value),
      sort ∈ sorts → document.get? "orders" = some (.array orders) →
      (∀ order ∈ orders, Sortable order) → orders.Pairwise (InRequestedOrder sort) →
      ∀ outcome ∈ ((pageRules pageSize sort).check document).outcomes,
        IsAboutOrder outcome → outcome.passed = true := by
  intro told
  have found : newestFirstPage.get? "orders" = some (.array newestFirst) := rfl
  have named : sortOrder? "created_at:desc" = some ("created_at", .descending) := by
    decide +kernel
  have dated : CreatedAt (datedOrder (newYear 2) 2) (newYear 2) :=
    ⟨newYear_hasUtcText.2, rfl⟩
  have disordered : ¬ newestFirst.Pairwise fun before after =>
      Direction.descending.inOrder "created_at" before after = true := by
    intro ordered
    have neighbours := (List.pairwise_cons.mp ordered).1 _ (List.mem_singleton.mpr rfl)
    exact not_inOrder_of_createdAt dated .descending neighbours
  obtain ⟨outcome, made, about, refused⟩ :=
    (exists_failed_iff 5 found).mpr ⟨_, _, named, disordered⟩
  have passed := told 5 "created_at:desc" newestFirstPage newestFirst (by decide) found
    newestFirst_sortable newestFirst_inRequestedOrder outcome made about
  rw [refused] at passed
  cases passed

theorem newestFirst_refused_byDate :
    "created_at:desc" ∈ sorts ∧ newestFirstPage.get? "orders" = some (.array newestFirst) ∧
      (∀ order ∈ newestFirst, Sortable order) ∧
      newestFirst.Pairwise (InRequestedOrder "created_at:desc") ∧
      ∃ outcome ∈ ((pageRules 5 "created_at:desc").check newestFirstPage).outcomes,
        IsAboutOrder outcome ∧ outcome.passed = false := by
  have listed : "created_at:desc" ∈ sorts := by
    decide
  have named : sortOrder? "created_at:desc" = some ("created_at", .descending) := by
    decide +kernel
  have found : newestFirstPage.get? "orders" = some (.array newestFirst) := rfl
  have refused := (pageOrder_refused_iff_byDate 5 listed found newestFirst_sortable
    newestFirst_inRequestedOrder).mpr ⟨⟨_, named⟩, by decide⟩
  exact ⟨listed, found, newestFirst_sortable, newestFirst_inRequestedOrder, refused⟩

end Contract.MajorUnits

end OrdersContract
