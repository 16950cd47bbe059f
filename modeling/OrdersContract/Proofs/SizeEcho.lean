import OrdersContract.Proofs.MergedIntegers
import OrdersContract.Proofs.PagedRules

set_option autoImplicit false

namespace OrdersContract.Contract.MajorUnits

open Json Number Text

def sizeStart : String := "pagination.page_size reflects request ("

def sizeLabel (pageSize : Nat) : String := sizeStart ++ decimalText pageSize ++ ")"

def sizeRule (pageSize : Nat) : Rule :=
  .ofField (here (".page_size reflects request (" ++ decimalText pageSize ++ ")")) "page_size"
    fun field => field.number?.any (·.agrees (.ofNat pageSize))

theorem labelAt_sizeRule (pageSize : Nat) :
    (sizeRule pageSize).labelAt [.field "pagination"] = sizeLabel pageSize := by
  have unmarked : '\x7b' ∉
      (".page_size reflects request (" ++ decimalText pageSize ++ ")").toList := by
    simp [brace_unmarked_decimalText]
  have joined : "pagination" ++ ".page_size reflects request (" = sizeStart := rfl
  rw [Rule.labelAt_here rfl unmarked, sizeLabel, ← joined]
  simp only [String.append_assoc]
  rfl

theorem outcome_sizeRule (pageSize : Nat) {page : Value} {size : Integer}
    (told : page.get? "page_size" = some (.number (.integer size))) :
    (sizeRule pageSize).outcome page [.field "pagination"] =
      if Double.Merges size.val pageSize then .pass (sizeLabel pageSize)
      else .fail (sizeLabel pageSize) (some ("got " ++ Value.text (.number (.integer size)))) := by
  have shown : page.field "page_size" = .present (.number (.integer size)) :=
    Value.field_eq_present_iff.mpr ⟨told, by simp⟩
  have asked : (sizeRule pageSize).evaluate page = decide (Double.Merges size.val pageSize) := by
    rw [← Double.ofInt_agrees_ofNat]
    simp only [sizeRule, Rule.ofField, shown]
    rfl
  have detail : (sizeRule pageSize).detail.map (· page) =
      some ("got " ++ Value.text (.number (.integer size))) := by
    simp only [sizeRule, Rule.ofField, Option.map_some, shown, Field.shown]
  rw [Rule.outcome, asked, labelAt_sizeRule, detail]
  by_cases merged : Double.Merges size.val pageSize <;> simp [merged]

theorem outcomes_paginationEcho (pageSize : Nat) {document : Value}
    {members : List (String × Value)}
    (paged : document.get? "pagination" = some (.object members)) :
    (paginationEcho pageSize).outcomes document [] = [.pass "pagination is an object",
      (sizeRule pageSize).outcome (.object members) [.field "pagination"]] := by
  have found : (document.field "pagination").value? = some (.object members) :=
    Value.field_value?_eq_some_iff.mpr ⟨paged, by simp⟩
  have holds : paginationGate.evaluate document = true :=
    Field.isObject_field_iff.mpr ⟨members, paged⟩
  have label : paginationGate.labelAt [] = "pagination is an object" :=
    Rule.labelAt_of_unmarked (unmarked_of_lacksMark rfl) []
  rw [Group.outcomes_of_gated rfl rfl, Group.outcomesBelow_field rfl found, if_pos holds,
    Rule.outcome, if_pos holds, label]
  rfl

-- Two texts that differ early do not begin the same label.
theorem ne_sizeLabel {label part : String} (pageSize : Nat) (begins : part.toList <+: label.toList)
    (differs : ¬sizeStart.toList <+: part.toList ∧ ¬part.toList <+: sizeStart.toList) :
    label ≠ sizeLabel pageSize := by
  rintro rfl
  have start : sizeStart.toList <+: (sizeLabel pageSize).toList := by
    simp [sizeLabel, List.append_assoc]
  rcases List.prefix_or_prefix_of_prefix start begins with shorter | longer
  · exact differs.1 shorter
  · exact differs.2 longer

theorem filter_sizeLabel (pageSize : Nat) (sort : String) {document : Value}
    {members : List (String × Value)}
    (paged : document.get? "pagination" = some (.object members)) :
    ((pageRules pageSize sort).check document).outcomes.filter (·.label = sizeLabel pageSize) =
      if hasOrders.evaluate document then
        [(sizeRule pageSize).outcome (.object members) [.field "pagination"]] else [] := by
  have gate : gateLabel ≠ sizeLabel pageSize :=
    ne_sizeLabel pageSize (List.prefix_refl _) (by decide +kernel)
  have bound : (pageBound pageSize "requested page_size").labelAt [] ≠ sizeLabel pageSize := by
    have begins : "orders count <= requested page_size (".toList <+:
        ("orders count <= requested page_size (" ++ decimalText pageSize ++ ")").toList := by
      simp
    rw [labelAt_pageBound]
    exact ne_sizeLabel pageSize begins (by decide +kernel)
  have order : (orderOutcomes sort document).filter (·.label = sizeLabel pageSize) = [] := by
    rw [List.filter_eq_nil_iff]
    intro outcome made
    simpa using ne_sizeLabel pageSize (isAboutOrder_of_mem_orderOutcomes made) (by decide +kernel)
  have paginated : "pagination is an object" ≠ sizeLabel pageSize :=
    ne_sizeLabel pageSize (List.prefix_refl _) (by decide +kernel)
  rw [check_pageRules_outcomes, outcomes_paginationEcho pageSize paged]
  by_cases holds : hasOrders.evaluate document = true <;>
    simp [holds, labelAt_hasOrders, labelAt_sizeRule, gate, bound, order, paginated, Outcome.pass]

/--
The size that a page tells passes for the requested one exactly when both round to one double. So
the requested size passes, and another one does only if it is `2 ^ 53` or more and differs from the
requested one by at most one part in `2 ^ 53` of the sum of both.
-/
theorem sizeEcho_decides (pageSize : Nat) (sort : String) {document page : Value} {size : Integer}
    (paged : document.get? "pagination" = some page)
    (told : page.get? "page_size" = some (.number (.integer size))) :
    (((pageRules pageSize sort).check document).outcomes.filter (·.label = sizeLabel pageSize) =
      if (document.elements? "orders").isSome then
        [if Double.Merges size.val pageSize then .pass (sizeLabel pageSize)
          else .fail (sizeLabel pageSize)
            (some ("got " ++ Value.text (.number (.integer size))))] else []) ∧
    (size.val = pageSize → Double.Merges size.val pageSize) ∧
    (Double.Merges size.val pageSize → size.val = pageSize ∨
      2 ^ 53 ≤ pageSize ∧ 2 ^ 53 ≤ size.val ∧
        2 ^ 53 * (size.val - pageSize).natAbs ≤ size.val + pageSize) := by
  obtain ⟨members, rfl⟩ := Value.isObject_of_get? told
  refine ⟨?_, ?_, Double.Merges.eq_or_large_natCast⟩
  · rw [filter_sizeLabel pageSize sort paged, evaluate_hasOrders, outcome_sizeRule pageSize told]
  · intro same
    rw [same]
    rfl

def emptyPage (size : Integer) : Value := amountsPage [] (.integer size)

def roundedUpSize : Integer := ⟨0xfffffffffffffc00, by omega, by omega⟩

theorem roundedUpSize_passes :
    (emptyPage roundedUpSize).get? "pagination" =
        some (.object [("page_size", .number (.integer roundedUpSize))]) ∧
      Value.get? "page_size" (.object [("page_size", .number (.integer roundedUpSize))]) =
        some (.number (.integer roundedUpSize)) ∧
      ((pageRules 0xffffffffffffffff "created_at:asc").check
          (emptyPage roundedUpSize)).outcomes.filter (·.label = sizeLabel 0xffffffffffffffff) =
        [.pass (sizeLabel 0xffffffffffffffff)] := by
  have paged : (emptyPage roundedUpSize).get? "pagination" =
      some (.object [("page_size", .number (.integer roundedUpSize))]) := rfl
  have told : Value.get? "page_size" (.object [("page_size", .number (.integer roundedUpSize))]) =
      some (.number (.integer roundedUpSize)) := rfl
  have merged : Double.Merges roundedUpSize.val (0xffffffffffffffff : Nat) := by
    decide +kernel
  obtain ⟨outcomes, _⟩ := sizeEcho_decides 0xffffffffffffffff "created_at:asc" paged told
  rw [if_pos merged] at outcomes
  exact ⟨paged, told, outcomes⟩

def nextSize : Integer := ⟨0x80000000000001, by omega, by omega⟩

theorem nextSize_passes :
    ¬∀ (pageSize : Nat) (sort : String) (document page : Value) (size : Integer),
      pageSize < 2 ^ 64 → document.get? "pagination" = some page →
      page.get? "page_size" = some (.number (.integer size)) →
      ∀ outcome ∈ ((pageRules pageSize sort).check document).outcomes,
        outcome.label = sizeLabel pageSize → (outcome.passed = true ↔ size.val = pageSize) := by
  intro told
  have paged : (emptyPage nextSize).get? "pagination" =
      some (.object [("page_size", .number (.integer nextSize))]) := rfl
  have echoed : Value.get? "page_size" (.object [("page_size", .number (.integer nextSize))]) =
      some (.number (.integer nextSize)) := rfl
  have listsOrders : hasOrders.evaluate (emptyPage nextSize) = true := rfl
  have merged : Double.Merges nextSize.val (0x80000000000000 : Nat) := by
    decide +kernel
  have recorded : .pass (sizeLabel 0x80000000000000) ∈
      ((pageRules 0x80000000000000 "total_amount:desc").check (emptyPage nextSize)).outcomes := by
    have listed := filter_sizeLabel 0x80000000000000 "total_amount:desc" paged
    rw [if_pos listsOrders, outcome_sizeRule _ echoed, if_pos merged] at listed
    exact (List.mem_filter.mp (listed ▸ List.mem_singleton.mpr rfl)).1
  have same : nextSize.val = (0x80000000000000 : Nat) :=
    (told 0x80000000000000 "total_amount:desc" (emptyPage nextSize) _ nextSize (by decide) paged
      echoed _ recorded rfl).mp rfl
  exact absurd same (by decide)

end OrdersContract.Contract.MajorUnits
