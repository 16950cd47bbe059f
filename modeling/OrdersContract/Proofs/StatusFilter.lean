import OrdersContract.Proofs.SeparateOrders
import OrdersContract.Proofs.Walk

set_option autoImplicit false

namespace OrdersContract

open Json Text

-- The mark does not end in a character outside it.
theorem MarkFree.concat {part : List Char} (free : MarkFree part) {c : Char} (other : c ≠ '\x7d') :
    MarkFree (part ++ [c]) := by
  intro found
  rcases List.infix_concat_iff.mp found with atEnd | inside
  · rcases List.suffix_concat_iff.mp atEnd with empty | ⟨start, same, _⟩
    · simp [markChars] at empty
    · have last : markChars.getLast? = some c := by rw [same, List.getLast?_concat]
      simp only [markChars, List.getLast?_cons_cons, List.getLast?_singleton, Option.some.injEq]
        at last
      exact other last.symm
  · exact free inside

namespace Contract.MajorUnits

def HasStatus (status : String) (order : Value) : Prop :=
  ∃ members, order = .object members ∧ members.lookup "status" = some (.string status)

theorem isOfStatus_iff {status : String} {order : Value} :
    isOfStatus status order = true ↔ HasStatus status order := by
  rw [isOfStatus, beq_iff_eq, Option.bind_eq_some_iff]
  constructor
  · rintro ⟨value, held, told⟩
    obtain ⟨members, rfl, found⟩ := Value.get?_eq_some_iff.mp held
    cases value <;> simp_all [Value.string?, HasStatus]
  · rintro ⟨members, rfl, found⟩
    exact ⟨.string status, found, rfl⟩

def statusStart : String := "all returned orders have status '"

def statusLabel (status : String) : String := statusStart ++ status ++ "'"

def otherEntry (other : Value × Nat) : String :=
  "orders[" ++ decimalText other.2 ++ "].status=" ++ (other.1.field "status").shown

def statusRule (status : String) : Rule :=
  { label := statusLabel status
    evaluate := fun root => (root.elements "orders").all (isOfStatus status)
    detail := some fun root => "found orders with other statuses: " ++
      ", ".intercalate ((othersThan status root).map otherEntry) }

theorem labelAt_statusRule {status : String} (free : MarkFree status.toList) (path : Path) :
    (statusRule status).labelAt path = statusLabel status := by
  have front : '\x7b' ∉ statusStart.toList := by decide +kernel
  have rest : MarkFree (status.toList ++ ['\x27']) := free.concat (by decide)
  have spelled : (statusRule status).label.toList =
      statusStart.toList ++ (status.toList ++ ['\x27']) := by
    simp [statusRule, statusLabel]
  rw [Rule.labelAt, spelled, putPlace_append _ front, putPlace_of_markFree _ rest, ← spelled,
    String.ofList_toList]
  rfl

theorem check_statusRules_outcomes (status : String) {document : Value}
    (holds : hasOrders.evaluate document = true) :
    ((statusRules status).check document).outcomes =
      [.pass gateLabel, (statusRule status).outcome document []] := by
  have rules : (statusRules status).root.rules = [statusRule status] := rfl
  have children : (statusRules status).root.children = [] := rfl
  have applies : (statusRule status).outcome? document [] =
      some ((statusRule status).outcome document []) := Rule.outcome?_of_unguarded rfl document []
  rw [(OrderRules.status status).check_of_orders holds, Group.outcomesAt, rules, children]
  simp [applies]

theorem detail_outcome_statusRule (status : String) (document : Value) :
    ((statusRule status).outcome document []).detail =
      if (statusRule status).evaluate document then none
      else some ("found orders with other statuses: " ++
        ", ".intercalate ((othersThan status document).map otherEntry)) := by
  rw [Rule.outcome]
  split
  next => rfl
  next => rfl

theorem mem_othersThan_iff {status : String} {document : Value} {orders : List Value}
    (found : document.get? "orders" = some (.array orders)) {order : Value} {i : Nat} :
    (order, i) ∈ othersThan status document ↔
      orders[i]? = some order ∧ ¬ HasStatus status order := by
  simp only [othersThan, List.mem_filter, Value.elements_eq_of_get? found,
    List.mk_mem_zipIdx_iff_getElem?, ← isOfStatus_iff, Bool.not_eq_true', Bool.not_eq_true]

theorem othersThan_pairwise (status : String) (document : Value) :
    (othersThan status document).Pairwise fun first second => first.2 < second.2 :=
  (Group.zipIdx_pairwise _).filter _

/--
With an array of orders the rules for one status record the gate, which passes, and one outcome
about the statuses. It passes exactly when every order has the status that was asked for; where it
fails, it lists the orders that do not, by increasing index and each with what it shows as its
status.
-/
theorem statusRules_decide {status : String} (free : MarkFree status.toList) {document : Value}
    {orders : List Value} (found : document.get? "orders" = some (.array orders)) :
    ∃ outcome, ((statusRules status).check document).outcomes = [.pass gateLabel, outcome] ∧
      outcome.label = "all returned orders have status '" ++ status ++ "'" ∧
      (outcome.passed = true ↔ ∀ order ∈ orders, HasStatus status order) ∧
      (outcome.passed = true → outcome.detail = none) ∧
      (outcome.passed = false → ∃ (others : List Nat) (entries : List String),
        others ≠ [] ∧ others.Pairwise (· < ·) ∧
        (∀ i, i ∈ others ↔ ∃ order, orders[i]? = some order ∧ ¬ HasStatus status order) ∧
        List.Forall₂ (fun i entry => ∃ order shown, orders[i]? = some order ∧
          order.Shows "status" shown ∧
          entry = "orders[" ++ decimalText i ++ "].status=" ++ shown) others entries ∧
        outcome.detail =
          some ("found orders with other statuses: " ++ ", ".intercalate entries)) := by
  have holds : hasOrders.evaluate document = true := Field.isArray_field_iff.mpr ⟨orders, found⟩
  have asked : (statusRule status).evaluate document = true ↔
      ∀ order ∈ orders, HasStatus status order := by
    simp [statusRule, Value.elements_eq_of_get? found, isOfStatus_iff]
  have listed (i : Nat) : i ∈ (othersThan status document).map Prod.snd ↔
      ∃ order, orders[i]? = some order ∧ ¬ HasStatus status order := by
    simp [← mem_othersThan_iff found]
  refine ⟨_, check_statusRules_outcomes status holds, ?_, ?_, ?_, ?_⟩
  · rw [Rule.outcome_label, labelAt_statusRule free]
    rfl
  · rw [Rule.passed_outcome, asked]
  · intro passed
    rw [Rule.passed_outcome] at passed
    rw [detail_outcome_statusRule, if_pos passed]
  · intro failed
    rw [Rule.passed_outcome, ← Bool.not_eq_true] at failed
    refine ⟨(othersThan status document).map Prod.snd, (othersThan status document).map otherEntry,
      ?_, List.pairwise_map.mpr (othersThan_pairwise status document), listed, ?_, ?_⟩
    · intro none
      apply failed
      rw [asked]
      intro order member
      obtain ⟨i, here⟩ := List.mem_iff_getElem?.mp member
      by_contra other
      have own := (listed i).mpr ⟨order, here, other⟩
      rw [none] at own
      exact absurd own List.not_mem_nil
    · rw [List.forall₂_map_left_iff, List.forall₂_map_right_iff, List.forall₂_same]
      intro other member
      exact ⟨other.1, _, ((mem_othersThan_iff found).mp member).1, other.1.shows_field "status", rfl⟩
    · rw [detail_outcome_statusRule, if_neg failed]

def mixedOrders : List Value :=
  [.object [("status", .string "shipped")], .object [("status", .null)],
    .object [("status", .string "pending")], .array []]

theorem mixedOrders_listed :
    let document : Value := .object [("orders", .array mixedOrders)]
    MarkFree "shipped".toList ∧ document.get? "orders" = some (.array mixedOrders) ∧
      ∃ outcome, ((statusRules "shipped").check document).outcomes = [.pass gateLabel, outcome] ∧
        outcome.detail = some ("found orders with other statuses: orders[1].status=undefined, " ++
          "orders[2].status=\"pending\", orders[3].status=undefined") ∧
        ¬ ∀ order ∈ mixedOrders, HasStatus "shipped" order := by
  intro document
  have free : MarkFree "shipped".toList := by
    unfold MarkFree
    decide +kernel
  have found : document.get? "orders" = some (.array mixedOrders) := rfl
  obtain ⟨outcome, outcomes, _, passes, _⟩ := statusRules_decide free found
  have failed : (((statusRules "shipped").check document).outcomes.map Outcome.passed) =
      [true, false] := by
    decide +kernel
  have details : (((statusRules "shipped").check document).outcomes.map Outcome.detail) =
      [none, some ("found orders with other statuses: orders[1].status=undefined, " ++
        "orders[2].status=\"pending\", orders[3].status=undefined")] := by
    decide +kernel
  rw [outcomes] at failed details
  simp only [List.map_cons, List.map_nil, List.cons.injEq, and_true] at failed details
  refine ⟨free, rfl, outcome, outcomes, details.2, ?_⟩
  rw [← passes, failed.2]
  exact Bool.false_ne_true

end Contract.MajorUnits

end OrdersContract
