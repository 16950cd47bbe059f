import OrdersContract.Proofs.Interests

set_option autoImplicit false

namespace OrdersContract

open Json

namespace Rule

variable {rule : Rule} {interest : Interest} {read : List (String × Interest)} {name : String}

theorem outcome?_eq {first second : Value}
    (applies : rule.appliesTo first = rule.appliesTo second)
    (asks : rule.evaluate first = rule.evaluate second)
    (tells : rule.evaluate second = false → rule.detail.map (· first) = rule.detail.map (· second))
    (path : Path) : rule.outcome? first path = rule.outcome? second path := by
  rw [outcome?, outcome?, applies, outcome, outcome, asks]
  cases holds : rule.evaluate second with
  | true => rfl
  | false => rw [tells holds]

theorem readsOnly_of_unguarded (unguarded : rule.guard = none)
    (agree : ∀ first second, AlikeFor interest first second →
      rule.evaluate first = rule.evaluate second ∧
        (rule.evaluate second = false →
          rule.detail.map (· first) = rule.detail.map (· second))) :
    rule.ReadsOnly interest := by
  intro first second alike path
  obtain ⟨asks, tells⟩ := agree first second alike
  exact outcome?_eq (by simp [appliesTo, unguarded]) asks tells path

theorem readsOnly_ofField (label : String) (requirement : Field → Bool)
    (listed : (name, .whole) ∈ read) :
    (ofField label name requirement).ReadsOnly (.fields read) := by
  apply readsOnly_of_unguarded rfl
  intro first second alike
  simp [ofField, alike.field_eq listed]

theorem readsOnly_withDetail (label : String) (requirement : Field → Bool)
    {detail : Value → String} (listed : (name, .whole) ∈ read)
    (tells : ∀ first second : Value, first.get? name = second.get? name →
      detail first = detail second) :
    ((ofField label name requirement).withDetail detail).ReadsOnly (.fields read) := by
  apply readsOnly_of_unguarded rfl
  intro first second alike
  simp [ofField, withDetail, alike.field_eq listed, tells first second (alike.get?_eq listed)]

theorem readsOnly_of_kind (label : String) (requirement : Field → Bool)
    (listed : (name, interest) ∈ read)
    (asks : ∀ first second : Field, first.kindName = second.kindName →
      requirement first = requirement second) :
    ((ofField label name requirement).withDetail fun node =>
      "got " ++ (node.field name).kindName).ReadsOnly (.fields read) := by
  apply readsOnly_of_unguarded rfl
  intro first second alike
  have kind := alike.kindName_eq listed
  simp [ofField, withDetail, kind, asks _ _ kind]

theorem readsOnly_of_length (label : String) (test : Option Nat → Bool) (told : Option Nat → String)
    (listed : (name, interest) ∈ read) :
    Rule.ReadsOnly (.fields read)
      { label
        evaluate := fun node => test (node.length? name)
        detail := some fun node => told (node.length? name) } := by
  apply readsOnly_of_unguarded rfl
  intro first second alike
  simp [alike.length?_eq listed]

end Rule

theorem Field.isArray_eq_of_kindName {first second : Field}
    (kind : first.kindName = second.kindName) : first.isArray = second.isArray := by
  have named (field : Field) : field.isArray = (field.kindName == "array") := by
    cases field with
    | missing => rfl
    | present value => cases value <;> rfl
  rw [named, named, kind]

theorem Field.isObject_eq_of_kindName {first second : Field}
    (kind : first.kindName = second.kindName) : first.isObject = second.isObject := by
  have named (field : Field) : field.isObject = (field.kindName == "object") := by
    cases field with
    | missing => rfl
    | present value => cases value <;> rfl
  rw [named, named, kind]

theorem Direction.firstBreak?_congr (direction : Direction) {field : String}
    {elements others : List Value} (same : elements.map (·.field field) = others.map (·.field field)) :
    direction.firstBreak? field elements = direction.firstBreak? field others := by
  induction elements generalizing others with
  | nil => rw [List.map_eq_nil_iff.mp same.symm]
  | cons before rest ih =>
    match others, same with
    | first :: others, same =>
      obtain ⟨own, further⟩ : before.field field = first.field field ∧ _ := List.cons.inj same
      match rest, others, further with
      | [], [], _ => rfl
      | after :: rest, second :: others, further =>
        obtain ⟨next, _⟩ : after.field field = second.field field ∧ _ := List.cons.inj further
        have ordered : direction.inOrder field before after = direction.inOrder field first second := by
          rw [inOrder, inOrder, own, next]
        rw [firstBreak?, firstBreak?, ordered, ih further]

namespace Contract

def wholly (names : List String) : List (String × Interest) := names.map (·, .whole)

theorem ne_of_wholly {names : List String} {name other : String} {interest : Interest}
    (listed : (name, interest) ∈ wholly names) (unread : other ∉ names) : name ≠ other := by
  obtain ⟨_, named, same⟩ := List.mem_map.mp listed
  cases same
  exact ne_of_mem_of_not_mem named unread

section Shared

variable {read : List (String × Interest)} {each : Interest}

theorem hasOrders_readsOnly (listed : ("orders", .elements each) ∈ read) :
    hasOrders.ReadsOnly (.fields read) := by
  apply Rule.readsOnly_of_kind _ _ listed
  exact fun _ _ kind => Field.isArray_eq_of_kindName kind

theorem bareItems_eq {displayed : DisplayFields} {first second : Value}
    {orderRead itemRead : List (String × Interest)}
    (orders : ("orders", .elements (.fields orderRead)) ∈ read)
    (items : ("items", .elements (.fields itemRead)) ∈ orderRead)
    (name : (displayed.name, .whole) ∈ itemRead) (image : (displayed.image, .whole) ∈ itemRead)
    (alike : AlikeFor (.fields read) first second) :
    bareItems displayed first = bareItems displayed second := by
  rw [bareItems, bareItems]
  apply flatMap_zipIdx_congr (alike.length_elements_eq orders)
  intro i order other here there
  have inner := alike.elements_alike orders here there
  simp only [List.filterMap_eq_flatMap_toList]
  apply flatMap_zipIdx_congr (inner.length_elements_eq items)
  intro j item another found alsoFound
  have held := inner.elements_alike items found alsoFound
  have same : displayed.areIn item = displayed.areIn another := by
    rw [DisplayFields.areIn, DisplayFields.areIn, held.field_eq name, held.field_eq image]
  change (if displayed.areIn item then none else some (i, j)).toList = _
  rw [same]

theorem displayInline_readsOnly {displayed : DisplayFields}
    {orderRead itemRead : List (String × Interest)}
    (orders : ("orders", .elements (.fields orderRead)) ∈ read)
    (items : ("items", .elements (.fields itemRead)) ∈ orderRead)
    (name : (displayed.name, .whole) ∈ itemRead) (image : (displayed.image, .whole) ∈ itemRead) :
    (displayInline displayed).ReadsOnly (.fields read) := by
  have unguarded : (displayInline displayed).guard = none := rfl
  apply Rule.readsOnly_of_unguarded unguarded
  intro first second alike
  have bare := bareItems_eq orders items name image alike
  refine ⟨congrArg List.isEmpty bare, fun _ => ?_⟩
  have told (root : Value) : (displayInline displayed).detail.map (· root) =
      some ("missing display data at: " ++
        ", ".intercalate ((bareItems displayed root).map itemPlace)) := rfl
  rw [told, told, bare]

end Shared

namespace MinorUnits

def itemRead : List (String × Interest) :=
  wholly ["product_id", "product_name", "thumbnail_url", "quantity", "unit_price_cents"]

def orderRead : List (String × Interest) :=
  ("items", .elements (.fields itemRead)) ::
    wholly ["id", "status", "total_cents", "currency", "created_at"]

def pageRead : List (String × Interest) := wholly ["limit", "offset", "total"]

def rootRead : List (String × Interest) :=
  [("orders", .elements (.fields orderRead)), ("pagination", .fields pageRead)]

section Rules

variable {read : List (String × Interest)} {name : String}

theorem mandatory_readsOnly (listed : (name, .whole) ∈ read) :
    (mandatory name).ReadsOnly (.fields read) :=
  Rule.readsOnly_withDetail _ _ listed fun _ _ same => by rw [same]

-- An array is present, whatever its elements are.
theorem mandatory_readsOnly_of_elements {each : Interest} (listed : (name, .elements each) ∈ read) :
    (mandatory name).ReadsOnly (.fields read) := by
  apply Rule.readsOnly_of_unguarded rfl
  intro first second alike
  rcases alike.arrays_or_eq listed with same | ⟨items, others, here, there, _⟩
  · simp [mandatory, Rule.ofField, Rule.withDetail, Value.field, same]
  · have present : (first.field name).isPresent = true :=
      Field.isPresent_field_iff.mpr ⟨_, here, by simp⟩
    have alsoPresent : (second.field name).isPresent = true :=
      Field.isPresent_field_iff.mpr ⟨_, there, by simp⟩
    simp [mandatory, Rule.ofField, Rule.withDetail, present, alsoPresent]

-- A value that is refused is told in full, but then it has no elements.
theorem nonEmpty_readsOnly {each : Interest} (label : String)
    (listed : (name, .elements each) ∈ read) :
    (Rule.ofField label name Field.isNonEmptyArray).ReadsOnly (.fields read) := by
  apply Rule.readsOnly_of_unguarded rfl
  intro first second alike
  rcases alike.arrays_or_eq listed with same | ⟨items, others, here, there, length⟩
  · simp [Rule.ofField, Value.field, same]
  · cases items with
    | nil =>
      obtain rfl := List.eq_nil_of_length_eq_zero length.symm
      simp [Rule.ofField, Value.field, here, there]
    | cons item rest =>
      have filled : others ≠ [] := by
        rintro rfl
        simp at length
      have nonEmpty : (first.field name).isNonEmptyArray = true :=
        Field.isNonEmptyArray_field_iff.mpr ⟨_, here, by simp⟩
      have alsoNonEmpty : (second.field name).isNonEmptyArray = true :=
        Field.isNonEmptyArray_field_iff.mpr ⟨_, there, filled⟩
      simp [Rule.ofField, nonEmpty, alsoNonEmpty]

-- What is no object is told in full, and it is read as a whole.
theorem object_readsOnly {inner : List (String × Interest)} (label : String)
    (listed : (name, .fields inner) ∈ read) :
    (Rule.ofField label name Field.isObject).ReadsOnly (.fields read) := by
  apply Rule.readsOnly_of_unguarded rfl
  intro first second alike
  rcases alike.objects_or_eq listed with same | ⟨here, there⟩
  · simp [Rule.ofField, same]
  · simp [Rule.ofField, here, there]

end Rules

theorem pagination_readsOnly : pagination.ReadsOnly (.fields rootRead) := by
  have page : ("pagination", .fields pageRead) ∈ rootRead := by simp [rootRead]
  refine .mk ?_ ⟨rootRead, rfl, page⟩ ?_ (by simp)
  · rintro rule ⟨⟩
    exact object_readsOnly _ page
  · rw [List.forall_mem_map]
    intro name listed
    exact Rule.readsOnly_ofField _ _ (List.mem_map_of_mem listed)

theorem items_readsOnly : items.ReadsOnly (.fields orderRead) := by
  have elements : ("items", .elements (.fields itemRead)) ∈ orderRead := List.mem_cons_self
  refine .mk ?_ ⟨orderRead, rfl, elements⟩ ?_ (by simp)
  · rintro rule ⟨⟩
    exact nonEmpty_readsOnly _ elements
  · rw [List.forall_mem_append, List.forall_mem_map]
    constructor
    · intro name listed
      exact mandatory_readsOnly (List.mem_map_of_mem listed)
    · simp only [List.forall_mem_cons]
      exact ⟨Rule.readsOnly_ofField _ _ (by simp [itemRead, wholly]),
        Rule.readsOnly_ofField _ _ (by simp [itemRead, wholly]),
        Rule.readsOnly_ofField _ _ (by simp [itemRead, wholly]), by simp⟩

theorem orders_readsOnly : orders.ReadsOnly (.fields rootRead) := by
  have elements : ("orders", .elements (.fields orderRead)) ∈ rootRead := List.mem_cons_self
  refine .mk (by simp) ⟨rootRead, rfl, elements⟩ ?_ (by simpa using items_readsOnly)
  rw [List.forall_mem_append, List.forall_mem_map]
  constructor
  · intro name listed
    by_cases own : name = "items"
    next =>
      subst own
      exact mandatory_readsOnly_of_elements List.mem_cons_self
    next =>
      have other : name ∈ ["id", "status", "total_cents", "currency", "created_at"] := by
        simpa [orderFields, own] using listed
      exact mandatory_readsOnly (List.mem_cons_of_mem _ (List.mem_map_of_mem other))
  · simp only [List.forall_mem_cons]
    refine ⟨Rule.readsOnly_withDetail _ _ (by simp [orderRead, wholly]) ?_,
      Rule.readsOnly_ofField _ _ (by simp [orderRead, wholly]),
      Rule.readsOnly_ofField _ _ (by simp [orderRead, wholly]), by simp⟩
    intro first second same
    rw [allowedDetail, allowedDetail, Value.field, Value.field, same]

theorem rules_readsOnly : rules.root.ReadsOnly (.fields rootRead) := by
  have elements : ("orders", .elements (.fields orderRead)) ∈ rootRead := List.mem_cons_self
  have displayed : (displayInline ⟨"product_name", "thumbnail_url"⟩).ReadsOnly (.fields rootRead) :=
    displayInline_readsOnly elements List.mem_cons_self (by simp [itemRead, wholly])
      (by simp [itemRead, wholly])
  have inline : inlineData.ReadsOnly (.fields rootRead) :=
    .mk (by simp) rfl (by simpa using displayed) (by simp)
  refine .mk ?_ rfl (by simp) ?_
  · rintro rule ⟨⟩
    exact hasOrders_readsOnly elements
  · simp only [List.forall_mem_cons]
    exact ⟨pagination_readsOnly, orders_readsOnly, inline, by simp⟩

end MinorUnits

namespace MajorUnits

def itemRead : List (String × Interest) :=
  wholly ["product_id", "product_name", "thumbnail_url", "quantity", "unit_price"]

def orderRead : List (String × Interest) :=
  ("items", .elements (.fields itemRead)) ::
    wholly ["order_id", "status", "created_at", "total_amount", "currency", "item_count"]

def pageRead : List (String × Interest) := wholly ["page", "page_size", "total_count", "total_pages"]

def rootRead : List (String × Interest) :=
  [("orders", .elements (.fields orderRead)), ("pagination", .fields pageRead)]

section Rules

variable {read elementRead : List (String × Interest)} {collection field : String}

theorem shownAt_congr {elements others : List Value}
    (same : elements.map (·.field field) = others.map (·.field field)) (i : Nat) :
    shownAt elements i field = shownAt others i field := by
  have held := congrArg (·[i]?) same
  simp only [List.getElem?_map] at held
  rw [shownAt, shownAt]
  cases here : elements[i]? <;> cases there : others[i]? <;> simp_all

theorem orderedRule_readsOnly (label : String) (direction : Direction)
    (elements : (collection, .elements (.fields elementRead)) ∈ read)
    (listed : (field, .whole) ∈ elementRead) :
    (orderedRule label collection field direction).ReadsOnly (.fields read) := by
  intro first second alike path
  have length := alike.length_elements_eq elements
  have same : (first.elements collection).map (·.field field) =
      (second.elements collection).map (·.field field) :=
    alike.map_elements_eq elements fun _ _ inner => inner.field_eq listed
  have breaks := direction.firstBreak?_congr same
  apply Rule.outcome?_eq
  · simp [Rule.appliesTo, orderedRule, length]
  · simp [orderedRule, breaks]
  · simp [orderedRule, breaks, shownAt_congr same]

theorem onCard_readsOnly (missing : String) (requirement : Field → Bool)
    (elements : ("items", .elements (.fields elementRead)) ∈ read)
    (listed : (field, .whole) ∈ elementRead) :
    (onCard field missing requirement).ReadsOnly (.fields read) := by
  intro first second alike path
  have length := alike.length?_eq elements
  have same : (first.elements "items").map (·.field field) =
      (second.elements "items").map (·.field field) :=
    alike.map_elements_eq elements fun _ _ inner => inner.field_eq listed
  have asked (node : Value) : (onCard field missing requirement).evaluate node =
      ((node.elements "items").map (·.field field)).head?.any requirement := by
    simp [onCard, List.head?_map, Option.any_map]
  apply Rule.outcome?_eq
  · simp [Rule.appliesTo, onCard, length]
  · rw [asked, asked, same]
  · exact fun _ => rfl

end Rules

theorem pagination_readsOnly : pagination.ReadsOnly (.fields rootRead) := by
  have page : ("pagination", .fields pageRead) ∈ rootRead := by simp [rootRead]
  refine .mk ?_ ⟨rootRead, rfl, page⟩ ?_ (by simp)
  · rintro rule ⟨⟩
    apply Rule.readsOnly_of_kind _ _ page
    exact fun _ _ kind => Field.isObject_eq_of_kindName kind
  · simp only [List.forall_mem_cons]
    exact ⟨Rule.readsOnly_ofField _ _ (by simp [pageRead, wholly]),
      Rule.readsOnly_ofField _ _ (by simp [pageRead, wholly]),
      Rule.readsOnly_ofField _ _ (by simp [pageRead, wholly]),
      Rule.readsOnly_ofField _ _ (by simp [pageRead, wholly]),
      Rule.readsOnly_ofField _ _ (by simp [pageRead, wholly]), by simp⟩

theorem itemFields_readsOnly : itemFields.ReadsOnly (.fields orderRead) := by
  refine .mk (by simp) ⟨orderRead, rfl, List.mem_cons_self⟩ ?_ (by simp)
  simp only [List.forall_mem_cons]
  exact ⟨Rule.readsOnly_ofField _ _ (by simp [itemRead, wholly]),
    Rule.readsOnly_ofField _ _ (by simp [itemRead, wholly]),
    Rule.readsOnly_ofField _ _ (by simp [itemRead, wholly]),
    Rule.readsOnly_ofField _ _ (by simp [itemRead, wholly]),
    Rule.readsOnly_ofField _ _ (by simp [itemRead, wholly]), by simp⟩

theorem itemCount_readsOnly (label : String) :
    Rule.ReadsOnly (.fields orderRead)
      { label
        evaluate := countsItems
        detail := some fun order =>
          "item_count=" ++ (order.field "item_count").shown ++ " but items.length=" ++
            Text.decimalText ((order.length? "items").getD 0) } := by
  apply Rule.readsOnly_of_unguarded rfl
  intro first second alike
  have length : first.length? "items" = second.length? "items" :=
    alike.length?_eq List.mem_cons_self
  have count : first.field "item_count" = second.field "item_count" :=
    alike.field_eq (by simp [orderRead, wholly])
  simp [countsItems, length, count]

theorem orderItems_readsOnly : orderItems.ReadsOnly (.fields orderRead) := by
  have elements : ("items", .elements (.fields itemRead)) ∈ orderRead := List.mem_cons_self
  refine .mk ?_ rfl ?_ (by simpa using itemFields_readsOnly)
  · rintro rule ⟨⟩
    apply Rule.readsOnly_of_kind _ _ elements
    exact fun _ _ kind => Field.isArray_eq_of_kindName kind
  · simp only [List.forall_mem_cons]
    exact ⟨Rule.readsOnly_of_length _ (·.any (0 < ·)) (fun _ => "items array is empty") elements,
      itemCount_readsOnly _,
      orderedRule_readsOnly _ _ elements (by simp [itemRead, wholly]),
      onCard_readsOnly _ _ elements (by simp [itemRead, wholly]),
      onCard_readsOnly _ _ elements (by simp [itemRead, wholly]), by simp⟩

theorem orders_readsOnly : orders.ReadsOnly (.fields rootRead) := by
  have elements : ("orders", .elements (.fields orderRead)) ∈ rootRead := List.mem_cons_self
  refine .mk (by simp) ⟨rootRead, rfl, elements⟩ ?_ (by simpa using orderItems_readsOnly)
  simp only [List.forall_mem_cons]
  refine ⟨Rule.readsOnly_ofField _ _ (by simp [orderRead, wholly]),
    Rule.readsOnly_withDetail _ _ (by simp [orderRead, wholly]) ?_,
    Rule.readsOnly_ofField _ _ (by simp [orderRead, wholly]),
    Rule.readsOnly_ofField _ _ (by simp [orderRead, wholly]),
    Rule.readsOnly_ofField _ _ (by simp [orderRead, wholly]),
    Rule.readsOnly_ofField _ _ (by simp [orderRead, wholly]), by simp⟩
  intro first second same
  rw [allowedDetail, allowedDetail, Value.field, Value.field, same]

theorem plainRules_readsOnly : plainRules.root.ReadsOnly (.fields rootRead) := by
  have elements : ("orders", .elements (.fields orderRead)) ∈ rootRead := List.mem_cons_self
  have displayed : (displayInline ⟨"product_name", "thumbnail_url"⟩).ReadsOnly (.fields rootRead) :=
    displayInline_readsOnly elements List.mem_cons_self (by simp [itemRead, wholly])
      (by simp [itemRead, wholly])
  have inline : inlineData.ReadsOnly (.fields rootRead) :=
    .mk (by simp) rfl (by simpa using displayed) (by simp)
  refine .mk ?_ rfl ?_ ?_
  · rintro rule ⟨⟩
    exact hasOrders_readsOnly elements
  · simp only [List.forall_mem_cons]
    exact ⟨Rule.readsOnly_of_length _ (·.any (0 < ·)) (fun _ => "no orders returned") elements,
      Rule.readsOnly_of_length _ (·.any (· ≤ usualPageSize))
        (fun length => "got " ++ Text.decimalText (length.getD 0)) elements, by simp⟩
  · simp only [List.forall_mem_cons]
    exact ⟨orders_readsOnly, pagination_readsOnly, inline, by simp⟩

end MajorUnits

/-- Adding, changing and removing fields that no rule reads, at the root, of the page, of orders and
of items, leaves the report as it is. -/
theorem check_same_of_alike (first second : Value) :
    (AlikeFor (.fields MinorUnits.rootRead) first second →
      MinorUnits.rules.check first = MinorUnits.rules.check second) ∧
    (AlikeFor (.fields MajorUnits.rootRead) first second →
      MajorUnits.plainRules.check first = MajorUnits.plainRules.check second) := by
  constructor
  · intro alike
    rw [RuleSet.check, RuleSet.check, MinorUnits.rules_readsOnly.outcomes_eq alike]
  · intro alike
    rw [RuleSet.check, RuleSet.check, MajorUnits.plainRules_readsOnly.outcomes_eq alike]

-- One order with one item: a field is added at the root and to the item, one of the order is
-- changed and one of the page is removed.
theorem check_same_of_one_order :
    let list (around : List (String × Value)) (note : Value) (item page : List (String × Value)) :=
      Value.object (around ++ [("orders", .array [.object [("id", .string "o-1"),
        ("items", .array [.object (item ++ [("product_id", .null)])]), ("note", note)]]),
        ("pagination", .object (page ++ [("limit", .bool true)]))])
    let first := list [] .null [] [("next", .string "p-2")]
    let second := list [("meta", .array [])] (.string "gift") [("sku", .string "s-1")] []
    AlikeFor (.fields MinorUnits.rootRead) first second ∧
      AlikeFor (.fields MajorUnits.rootRead) first second ∧
      MinorUnits.rules.check first = MinorUnits.rules.check second ∧
      MajorUnits.plainRules.check first = MajorUnits.plainRules.check second := by
  intro list first second
  have alike {page order item : List String} (next : "next" ∉ page) (note : "note" ∉ order)
      (items : "items" ∉ order) (sku : "sku" ∉ item) :
      AlikeFor (.fields [("orders", .elements (.fields (("items", .elements (.fields (wholly item))) ::
        wholly order))), ("pagination", .fields (wholly page))]) first second := by
    apply AlikeFor.objects_of_lookups
    simp only [List.mem_cons, List.not_mem_nil, or_false, Prod.mk.injEq]
    rintro _ _ (⟨rfl, rfl⟩ | ⟨rfl, rfl⟩)
    · refine .inr ⟨_, _, rfl, rfl, .arrays_singleton ?_⟩
      apply AlikeFor.objects_of_lookups
      intro name interest listed
      rcases List.mem_cons.mp listed with same | listed
      · cases same
        refine .inr ⟨_, _, rfl, rfl, .arrays_singleton ?_⟩
        apply AlikeFor.objects_of_lookups
        intro name interest listed
        have other := ne_of_wholly listed sku
        exact .inl (by simp [List.lookup_cons, beq_false_of_ne other])
      · have other := ne_of_wholly listed note
        have another := ne_of_wholly listed items
        exact .inl (by simp [List.lookup_cons, beq_false_of_ne other, beq_false_of_ne another])
    · refine .inr ⟨_, _, rfl, rfl, ?_⟩
      apply AlikeFor.objects_of_lookups
      intro name interest listed
      have other := ne_of_wholly listed next
      exact .inl (by simp [List.lookup_cons, beq_false_of_ne other])
  have minor : AlikeFor (.fields MinorUnits.rootRead) first second :=
    alike (by decide) (by decide) (by decide) (by decide)
  have major : AlikeFor (.fields MajorUnits.rootRead) first second :=
    alike (by decide) (by decide) (by decide) (by decide)
  obtain ⟨same, alsoSame⟩ := check_same_of_alike first second
  exact ⟨minor, major, same minor, alsoSame major⟩

end Contract

end OrdersContract
