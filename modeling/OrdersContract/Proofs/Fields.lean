import OrdersContract.Document.Requirement

set_option autoImplicit false

namespace OrdersContract

open Json

namespace Json.Value

theorem get?_eq_some_iff {node value : Value} {name : String} :
    node.get? name = some value ↔
      ∃ members, node = .object members ∧ members.lookup name = some value := by
  cases node <;> simp [get?]

theorem isObject_of_get? {node value : Value} {name : String} (found : node.get? name = some value) :
    ∃ members, node = .object members := by
  obtain ⟨members, same, _⟩ := get?_eq_some_iff.mp found
  exact ⟨members, same⟩

theorem items?_eq_some_iff {node : Value} {items : List Value} :
    node.items? = some items ↔ node = .array items := by
  cases node <;> simp [items?]

theorem field_eq_present_iff {node value : Value} {name : String} :
    node.field name = .present value ↔ node.get? name = some value ∧ value ≠ .null :=
  Field.ofOption_eq_present_iff

theorem field_value?_eq_some_iff {node value : Value} {name : String} :
    (node.field name).value? = some value ↔ node.get? name = some value ∧ value ≠ .null := by
  rw [← field_eq_present_iff]
  cases node.field name <;> simp

theorem elements?_eq_some_iff {node : Value} {name : String} {items : List Value} :
    node.elements? name = some items ↔ node.get? name = some (.array items) := by
  simp [elements?, Option.bind_eq_some_iff, field_value?_eq_some_iff, items?_eq_some_iff]

theorem elements_eq_of_get? {node : Value} {name : String} {items : List Value}
    (found : node.get? name = some (.array items)) : node.elements name = items := by
  rw [elements, elements?_eq_some_iff.mpr found, Option.getD_some]

theorem elements_getElem?_eq_some_iff {node value : Value} {name : String} {i : Nat} :
    (node.elements name)[i]? = some value ↔
      ∃ items, node.get? name = some (.array items) ∧ items[i]? = some value := by
  cases found : node.elements? name with
  | none => simp [elements, found, ← elements?_eq_some_iff]
  | some items => simp [elements, found, ← elements?_eq_some_iff]

theorem length?_eq_some_iff {node : Value} {name : String} {length : Nat} :
    node.length? name = some length ↔
      ∃ items, node.get? name = some (.array items) ∧ items.length = length := by
  simp [length?, elements?_eq_some_iff]

theorem length_elements (node : Value) (name : String) :
    (node.elements name).length = (node.length? name).getD 0 := by
  rw [elements, length?]
  cases node.elements? name <;> rfl

theorem items?_field (node : Value) (name : String) :
    (node.field name).items? = node.elements? name := by
  rw [elements?]
  cases node.field name with
  | missing => rfl
  | present value => cases value <;> rfl

theorem isArray_field (node : Value) (name : String) :
    (node.field name).isArray = (node.length? name).isSome := by
  rw [Field.isArray, items?_field, length?, Option.isSome_map]

theorem isNonEmptyArray_field (node : Value) (name : String) :
    (node.field name).isNonEmptyArray = decide (0 < (node.length? name).getD 0) := by
  rw [Field.isNonEmptyArray, items?_field, length?]
  cases node.elements? name with
  | none => rfl
  | some items => cases items <;> simp

inductive Shows : Value → String → String → Prop where
  | held {members : List (String × Value)} {name : String} {value : Value}
      (found : members.lookup name = some value) (filled : value ≠ .null) :
      Shows (.object members) name value.text
  | absent {members : List (String × Value)} {name : String} (none : members.lookup name = none) :
      Shows (.object members) name "undefined"
  | null {members : List (String × Value)} {name : String}
      (found : members.lookup name = some .null) : Shows (.object members) name "undefined"
  | outside {node : Value} {name : String} (other : ∀ members, node ≠ .object members) :
      Shows node name "undefined"

theorem shows_field (node : Value) (name : String) : node.Shows name (node.field name).shown := by
  cases node with
  | object members =>
    cases found : members.lookup name with
    | none => simpa [field, get?, found, Field.shown] using Shows.absent found
    | some value =>
      by_cases empty : value = .null
      next =>
        subst empty
        simpa [field, get?, found, Field.shown] using Shows.null found
      next =>
        have present : (object members).field name = .present value :=
          field_eq_present_iff.mpr ⟨get?_eq_some_iff.mpr ⟨members, rfl, found⟩, empty⟩
        rw [present]
        exact .held found empty
  | _ => exact .outside (by simp)

end Json.Value

namespace Field

variable {node : Value} {name : String}

theorem string?_field_iff {text : String} :
    (node.field name).string? = some text ↔ node.get? name = some (.string text) := by
  cases found : node.get? name with
  | none => simp [Value.field, found, string?]
  | some value => cases value <;> simp [Value.field, found, ofOption, string?]

theorem items?_field_iff {items : List Value} :
    (node.field name).items? = some items ↔ node.get? name = some (.array items) := by
  cases found : node.get? name with
  | none => simp [Value.field, found, items?]
  | some value => cases value <;> simp [Value.field, found, ofOption, items?]

theorem number?_field_iff {number : Number.Double} :
    (node.field name).number? = some number ↔
      ∃ n, node.get? name = some (.number n) ∧ n.toDouble = number := by
  cases found : node.get? name with
  | none => simp [Value.field, found, number?]
  | some value => cases value <;> simp [Value.field, found, ofOption, number?]

theorem isPresent_field_iff :
    (node.field name).isPresent = true ↔ ∃ value, node.get? name = some value ∧ value ≠ .null := by
  cases found : node.get? name with
  | none => simp [Value.field, found, isPresent, isMissing]
  | some value => cases value <;> simp [Value.field, found, ofOption, isPresent, isMissing]

theorem isObject_field_iff :
    (node.field name).isObject = true ↔ ∃ members, node.get? name = some (.object members) := by
  cases found : node.get? name with
  | none => simp [Value.field, found, isObject]
  | some value => cases value <;> simp [Value.field, found, ofOption, isObject]

theorem isArray_field_iff :
    (node.field name).isArray = true ↔ ∃ items, node.get? name = some (.array items) := by
  simp [isArray, Option.isSome_iff_exists, items?_field_iff]

theorem isNonEmptyArray_field_iff :
    (node.field name).isNonEmptyArray = true ↔
      ∃ items, node.get? name = some (.array items) ∧ items ≠ [] := by
  simp [isNonEmptyArray, Option.any_eq_true, items?_field_iff]

theorem isNonEmptyString_field_iff :
    (node.field name).isNonEmptyString = true ↔
      ∃ text, node.get? name = some (.string text) ∧ text ≠ "" := by
  simp [isNonEmptyString, Option.any_eq_true, string?_field_iff]

theorem isOneOf_field_iff {allowed : List String} :
    (node.field name).isOneOf allowed = true ↔
      ∃ text ∈ allowed, node.get? name = some (.string text) := by
  simp [isOneOf, Option.any_eq_true, string?_field_iff, and_comm]

-- All requirements but the trivial one refuse a missing field.
theorem isPresent_of_refuses {requirement : Field → Bool} (refuses : requirement missing = false)
    {field : Field} (met : requirement field = true) : field.isPresent = true := by
  cases field with
  | missing => simp [refuses] at met
  | present value => rfl

theorem isHttpText_field_iff :
    (node.field name).isAddress .httpText = true ↔
      ∃ text, node.get? name = some (.string text) ∧ "http".toList <+: text.toList := by
  simp [isAddress, Option.any_eq_true, string?_field_iff]

theorem isNonEmptyString_of_isAddress {field : Field} (valid : field.isAddress .absolute = true) :
    field.isNonEmptyString = true := by
  obtain ⟨text, held, parsed⟩ := (Option.any_eq_true ..).mp valid
  have filled : text ≠ "" := by
    rintro rfl
    exact absurd parsed (by decide +kernel)
  simp [isNonEmptyString, held, filled]

end Field

end OrdersContract
