import OrdersContract.Proofs.Edits
import OrdersContract.Proofs.Failures
import OrdersContract.Proofs.SeparateOrders

set_option autoImplicit false

namespace OrdersContract.Contract

open Json Text

def orderPath (i : Nat) : Path := [.field "orders", .index i]

def itemPath (i j : Nat) : Path := orderPath i ++ [.field "items", .index j]

theorem text_orderPath (i : Nat) : (orderPath i).text = orderPlace i := text_orderPlace i

theorem text_itemPath (i j : Nat) : (itemPath i j).text = itemsIn (orderPlace i) j := by
  rw [itemPath, text_itemsIn (text_orderPath i ▸ orderPlace_ne i), text_orderPath]

theorem itemPlace_eq (i j : Nat) : itemPlace (i, j) = itemsIn (orderPlace i) j :=
  text_itemPath i j

theorem failure_here {rule : Rule} {rest : String} (label : rule.label = here rest)
    (unmarked : '\x7b' ∉ rest.toList) (node : Value) (path : Path) :
    rule.failure node path = .fail (path.text ++ rest) (rule.detail.map (· node)) := by
  rw [Rule.failure, Rule.labelAt_here label unmarked]

def displayFields : DisplayFields := ⟨"product_name", "thumbnail_url"⟩

def barePlacesIn (order : Value) (i : Nat) : List String :=
  (order.elements "items").zipIdx.flatMap fun numbered =>
    if displayFields.areIn numbered.1 then [] else [itemPlace (i, numbered.2)]

theorem barePlaces_eq_flatMap (document : Value) :
    barePlaces document = (document.elements "orders").zipIdx.flatMap fun numbered =>
      barePlacesIn numbered.1 numbered.2 := by
  simp only [barePlaces, bareItems, List.map_flatMap, barePlacesIn]
  apply List.flatMap_congr
  intro order _
  rw [List.filterMap_eq_flatMap_toList, List.map_flatMap]
  apply List.flatMap_congr
  intro item _
  by_cases carried : displayFields.areIn item.1 = true <;> simp_all [displayFields]

theorem barePlacesIn_eq_nil {order : Value}
    (carried : ∀ item ∈ order.elements "items", displayFields.areIn item = true) (i : Nat) :
    barePlacesIn order i = [] := by
  rw [barePlacesIn, List.flatMap_eq_nil_iff]
  rintro ⟨item, j⟩ listed
  exact if_pos (carried item (List.mem_of_getElem? (List.mk_mem_zipIdx_iff_getElem?.mp listed)))

theorem barePlacesIn_of_missing {order : Value} (lost : order.field "items" = .missing) (i : Nat) :
    barePlacesIn order i = [] := by
  rw [barePlacesIn, Value.elements, Value.elements?, lost]
  rfl

theorem map_modify_of_same {α β : Type} {items : List α} {change : α → α} {told : α → β} {j : Nat}
    (same : ∀ item, items[j]? = some item → told (change item) = told item) :
    (items.modify j change).map told = items.map told := by
  apply List.ext_getElem?
  intro k
  rw [List.getElem?_map, List.getElem?_map, List.getElem?_modify]
  cases held : items[k]? with
  | none => rfl
  | some item =>
    by_cases changed : j = k
    next =>
      subst changed
      simp [same item held]
    next => simp [changed]

section Changed

variable {document order item : Value} {listed items : List Value} {i j : Nat}
  {change : Value → Value}

theorem barePlaces_of_changed (found : document.get? "orders" = some (.array listed))
    (here : listed[i]? = some order)
    (carried : ∀ order ∈ listed, ∀ item ∈ order.elements "items", displayFields.areIn item = true) :
    barePlaces (document.changeAt change (orderPath i)) = barePlacesIn (change order) i := by
  rw [barePlaces_eq_flatMap, orderPath, Value.elements_changeAt found, flatMap_zipIdx_modify here]
  intro k other _ held
  exact barePlacesIn_eq_nil (carried other (List.mem_of_getElem? held)) k

theorem barePlacesIn_of_changed (found : order.get? "items" = some (.array items))
    (here : items[j]? = some item) (carried : ∀ item ∈ items, displayFields.areIn item = true) :
    barePlacesIn (order.changeAt change [.field "items", .index j]) i =
      if displayFields.areIn (change item) then [] else [itemsIn (orderPlace i) j] := by
  rw [barePlacesIn, Value.elements_changeAt found, flatMap_zipIdx_modify here, itemPlace_eq]
  intro k other _ held
  exact if_pos (carried other (List.mem_of_getElem? held))

theorem outline_of_changed (found : document.get? "orders" = some (.array listed))
    (here : listed[i]? = some order)
    (same : (change order).length? "items" = order.length? "items") :
    Outline.of (document.changeAt change (orderPath i)) = Outline.of document := by
  have changed : (document.changeAt change (orderPath i)).elements? "orders" =
      some (listed.modify i change) :=
    Value.elements?_eq_some_iff.mpr (Value.get?_changeAt_self found i)
  have lengths : (listed.modify i change).map (·.length? "items") =
      listed.map (·.length? "items") := by
    apply map_modify_of_same
    intro other held
    rw [here, Option.some.injEq] at held
    exact held ▸ same
  rw [Outline.of, Outline.of, changed, Value.elements?_eq_some_iff.mpr found, Option.map_some,
    Option.map_some, lengths, orderPath, Value.field_changeAt_of_ne found i (by decide)]

theorem failuresIn_displayOutcome (places : List String) :
    failuresIn [displayOutcome places] = if places.isEmpty then [] else
      [.fail displayLabel (some ("missing display data at: " ++ ", ".intercalate places))] := by
  cases places <;> rfl

end Changed

end OrdersContract.Contract
