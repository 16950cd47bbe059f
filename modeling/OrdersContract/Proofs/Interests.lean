import OrdersContract.Proofs.OrderedMembers
import OrdersContract.Proofs.SeparateOrders

/-!
What a rule set does not ask for does not matter. The fields that are read are a tree beside the
tree of rules: documents that agree on it get the same report, whatever else their objects hold.
-/

set_option autoImplicit false

namespace OrdersContract

open Json

/-- What is read of a value: all of it, some fields of an object, or so much of each element of an
array. What is an object or an array is always read. -/
inductive Interest where
  | whole
  | fields (read : List (String × Interest))
  | elements (each : Interest)

inductive AlikeFor : Interest → Value → Value → Prop where
  | same {interest : Interest} (value : Value) : AlikeFor interest value value
  -- Fields that are not read can be there or not and hold anything.
  | objects {read : List (String × Interest)} {members others : List (String × Value)}
      (present : ∀ name interest, (name, interest) ∈ read →
        (members.lookup name).isSome = (others.lookup name).isSome)
      (alike : ∀ name interest value other, (name, interest) ∈ read →
        members.lookup name = some value → others.lookup name = some other →
        AlikeFor interest value other) :
      AlikeFor (.fields read) (.object members) (.object others)
  | arrays {each : Interest} {items others : List Value} (length : items.length = others.length)
      (alike : ∀ (i : Nat) (item other : Value), items[i]? = some item →
        others[i]? = some other → AlikeFor each item other) :
      AlikeFor (.elements each) (.array items) (.array others)

namespace AlikeFor

variable {read : List (String × Interest)} {first second : Value} {name : String}
  {interest : Interest}

theorem eq_of_whole (alike : AlikeFor .whole first second) : first = second := by
  cases alike with
  | same => rfl

theorem get?_cases (alike : AlikeFor (.fields read) first second)
    (listed : (name, interest) ∈ read) :
    first.get? name = none ∧ second.get? name = none ∨
      ∃ value other, first.get? name = some value ∧ second.get? name = some other ∧
        AlikeFor interest value other := by
  cases alike with
  | same =>
    cases found : first.get? name with
    | none => exact .inl ⟨rfl, rfl⟩
    | some value => exact .inr ⟨value, value, rfl, rfl, .same value⟩
  | @objects _ members others present alike =>
    have both := present name interest listed
    cases found : members.lookup name with
    | none =>
      rw [found, Option.isSome_none, eq_comm, Option.isSome_eq_false_iff] at both
      exact .inl ⟨found, Option.isNone_iff_eq_none.mp both⟩
    | some value =>
      rw [found, Option.isSome_some, eq_comm, Option.isSome_iff_exists] at both
      obtain ⟨other, alsoFound⟩ := both
      exact .inr ⟨value, other, found, alsoFound, alike name interest _ _ listed found alsoFound⟩

theorem objects_of_lookups {members others : List (String × Value)}
    (held : ∀ name interest, (name, interest) ∈ read →
      members.lookup name = others.lookup name ∨
        ∃ value other, members.lookup name = some value ∧ others.lookup name = some other ∧
          AlikeFor interest value other) :
    AlikeFor (.fields read) (.object members) (.object others) := by
  constructor
  · intro name interest listed
    rcases held name interest listed with same | ⟨value, other, here, there, _⟩
    · rw [same]
    · rw [here, there, Option.isSome_some, Option.isSome_some]
  · intro name interest value other listed found alsoFound
    rcases held name interest listed with same | ⟨_, _, here, there, inner⟩
    · obtain rfl : value = other := by
        rw [found, alsoFound] at same
        exact Option.some.inj same
      exact .same value
    · obtain rfl := Option.some.inj (here.symm.trans found)
      obtain rfl := Option.some.inj (there.symm.trans alsoFound)
      exact inner

theorem arrays_singleton {each : Interest} (alike : AlikeFor each first second) :
    AlikeFor (.elements each) (.array [first]) (.array [second]) := by
  refine .arrays rfl fun i item other found alsoFound => ?_
  cases i with
  | succ i => simp at found
  | zero =>
    obtain rfl := Option.some.inj found
    obtain rfl := Option.some.inj alsoFound
    exact alike

theorem get?_eq (alike : AlikeFor (.fields read) first second)
    (listed : (name, .whole) ∈ read) : first.get? name = second.get? name := by
  rcases alike.get?_cases listed with ⟨here, there⟩ | ⟨value, other, here, there, same⟩
  · rw [here, there]
  · rw [here, there, same.eq_of_whole]

theorem field_eq (alike : AlikeFor (.fields read) first second)
    (listed : (name, .whole) ∈ read) : first.field name = second.field name := by
  rw [Value.field, Value.field, alike.get?_eq listed]

theorem get?_shapes (alike : AlikeFor (.fields read) first second)
    (listed : (name, interest) ∈ read) :
    first.get? name = second.get? name ∨
      (∃ inner members others, interest = .fields inner ∧
        first.get? name = some (.object members) ∧ second.get? name = some (.object others)) ∨
      ∃ each items others, interest = .elements each ∧ first.get? name = some (.array items) ∧
        second.get? name = some (.array others) ∧ items.length = others.length := by
  rcases alike.get?_cases listed with ⟨here, there⟩ | ⟨value, other, here, there, below⟩
  · exact .inl (here.trans there.symm)
  · cases below with
    | same => exact .inl (here.trans there.symm)
    | objects => exact .inr (.inl ⟨_, _, _, rfl, here, there⟩)
    | arrays length => exact .inr (.inr ⟨_, _, _, rfl, here, there, length⟩)

theorem kindName_eq (alike : AlikeFor (.fields read) first second)
    (listed : (name, interest) ∈ read) :
    (first.field name).kindName = (second.field name).kindName := by
  rcases alike.get?_shapes listed with
    same | ⟨_, _, _, _, here, there⟩ | ⟨_, _, _, _, here, there, _⟩
  · rw [Value.field, Value.field, same]
  · simp [Value.field, here, there, Field.ofOption, Field.kindName]
  · simp [Value.field, here, there, Field.ofOption, Field.kindName]

theorem length?_eq (alike : AlikeFor (.fields read) first second)
    (listed : (name, interest) ∈ read) : first.length? name = second.length? name := by
  rcases alike.get?_shapes listed with
    same | ⟨_, _, _, _, here, there⟩ | ⟨_, _, _, _, here, there, length⟩
  · simp only [Value.length?, Value.elements?, Value.field, same]
  · simp [Value.length?, Value.elements?, Value.field, here, there, Field.ofOption, Value.items?]
  · simp [Value.length?, Value.elements?, Value.field, here, there, Field.ofOption, Value.items?,
      length]

theorem objects_or_eq {inner : List (String × Interest)}
    (alike : AlikeFor (.fields read) first second) (listed : (name, .fields inner) ∈ read) :
    first.field name = second.field name ∨
      (first.field name).isObject = true ∧ (second.field name).isObject = true := by
  rcases alike.get?_shapes listed with
    same | ⟨_, members, others, _, here, there⟩ | ⟨_, _, _, other, _⟩
  · exact .inl (by rw [Value.field, Value.field, same])
  · exact .inr ⟨Field.isObject_field_iff.mpr ⟨members, here⟩,
      Field.isObject_field_iff.mpr ⟨others, there⟩⟩
  · cases other

theorem arrays_or_eq {each : Interest} (alike : AlikeFor (.fields read) first second)
    (listed : (name, .elements each) ∈ read) :
    first.get? name = second.get? name ∨
      ∃ items others, first.get? name = some (.array items) ∧
        second.get? name = some (.array others) ∧ items.length = others.length := by
  rcases alike.get?_shapes listed with
    same | ⟨_, _, _, other, _⟩ | ⟨_, items, others, _, here, there, length⟩
  · exact .inl same
  · cases other
  · exact .inr ⟨items, others, here, there, length⟩

theorem elements_alike {each : Interest} (alike : AlikeFor (.fields read) first second)
    (listed : (name, .elements each) ∈ read) {i : Nat} {item other : Value}
    (here : (first.elements name)[i]? = some item)
    (there : (second.elements name)[i]? = some other) : AlikeFor each item other := by
  obtain ⟨items, found, here⟩ := Value.elements_getElem?_eq_some_iff.mp here
  obtain ⟨others, alsoFound, there⟩ := Value.elements_getElem?_eq_some_iff.mp there
  rcases alike.get?_cases listed with ⟨none, _⟩ | ⟨value, another, held, alsoHeld, below⟩
  · rw [none] at found
    simp at found
  · obtain rfl := Option.some.inj (held.symm.trans found)
    obtain rfl := Option.some.inj (alsoHeld.symm.trans alsoFound)
    cases below with
    | same =>
      obtain rfl := Option.some.inj (here.symm.trans there)
      exact .same item
    | arrays _ alike => exact alike i item other here there

theorem length_elements_eq (alike : AlikeFor (.fields read) first second)
    (listed : (name, interest) ∈ read) :
    (first.elements name).length = (second.elements name).length := by
  rw [Value.length_elements, Value.length_elements, alike.length?_eq listed]

theorem map_elements_eq {β : Type} {each : Interest} {told : Value → β}
    (alike : AlikeFor (.fields read) first second) (listed : (name, .elements each) ∈ read)
    (tells : ∀ item other, AlikeFor each item other → told item = told other) :
    (first.elements name).map told = (second.elements name).map told := by
  apply List.ext_getElem
  · simp [alike.length_elements_eq listed]
  · intro i within alsoWithin
    rw [List.getElem_map, List.getElem_map]
    rw [List.length_map] at within alsoWithin
    exact tells _ _ (alike.elements_alike listed (List.getElem?_eq_getElem within)
      (List.getElem?_eq_getElem alsoWithin))

end AlikeFor

def Rule.ReadsOnly (interest : Interest) (rule : Rule) : Prop :=
  ∀ first second, AlikeFor interest first second → ∀ path,
    rule.outcome? first path = rule.outcome? second path

def Scope.Reaches (scope : Scope) (interest below : Interest) : Prop :=
  match scope with
  | current => below = interest
  | field name => ∃ read, interest = .fields read ∧ (name, below) ∈ read
  | each name => ∃ read, interest = .fields read ∧ (name, .elements below) ∈ read

inductive Group.ReadsOnly : Interest → Group → Prop where
  | mk {interest below : Interest} {name : String} {scope : Scope} {precondition : Option Rule}
      {rules : List Rule} {children : List Group}
      (gate : ∀ rule ∈ precondition, rule.ReadsOnly interest)
      (reaches : scope.Reaches interest below)
      (own : ∀ rule ∈ rules, rule.ReadsOnly below)
      (further : ∀ child ∈ children, ReadsOnly below child) :
      ReadsOnly interest (.mk name scope precondition rules children)

theorem Scope.Reaches.flatMap_nodes_eq {scope : Scope} {interest below : Interest} {α : Type}
    (reaches : scope.Reaches interest below) {first second : Value}
    (alike : AlikeFor interest first second) (path : Path) {told : Value × Path → List α}
    (tells : ∀ node other place, AlikeFor below node other → told (node, place) = told (other, place)) :
    (scope.nodes first path).flatMap told = (scope.nodes second path).flatMap told := by
  cases scope with
  | current =>
    obtain rfl : below = interest := reaches
    rw [flatMap_nodes_current, flatMap_nodes_current]
    exact tells first second path alike
  | field name =>
    obtain ⟨read, rfl, listed⟩ := reaches
    rcases alike.get?_cases listed with ⟨here, there⟩ | ⟨value, other, here, there, inner⟩
    · simp [nodes, Value.field, here, there]
    · have missing : value = .null ↔ other = .null := by
        cases inner <;> simp
      by_cases null : value = .null
      next => simp [nodes, Value.field, here, there, missing.mp null, null]
      next =>
        have found := Value.field_value?_eq_some_iff.mpr ⟨here, null⟩
        have alsoFound := Value.field_value?_eq_some_iff.mpr ⟨there, mt missing.mpr null⟩
        simp [nodes, found, alsoFound, tells value other _ inner]
  | each name =>
    obtain ⟨read, rfl, listed⟩ := reaches
    rw [flatMap_nodes_each, flatMap_nodes_each]
    apply flatMap_zipIdx_congr (alike.length_elements_eq listed)
    intro i item other here there
    exact tells item other _ (alike.elements_alike listed here there)

/-- Documents that are alike for the rules of a tree get the same outcomes. -/
theorem Group.ReadsOnly.outcomes_eq {interest : Interest} {group : Group}
    (reads : group.ReadsOnly interest) {first second : Value}
    (alike : AlikeFor interest first second) (path : Path) :
    group.outcomes first path = group.outcomes second path := by
  induction reads generalizing first second path with
  | @mk interest below name scope precondition rules children gate reaches own further ih =>
    have gates : precondition.bind (·.outcome? first path) =
        precondition.bind (·.outcome? second path) := by
      cases precondition with
      | none => rfl
      | some rule => exact gate rule rfl first second alike path
    rw [outcomes, outcomes, gates]
    congr 2
    apply reaches.flatMap_nodes_eq alike
    intro node other place inner
    have rules : rules.filterMap (·.outcome? node place) = rules.filterMap (·.outcome? other place) :=
      List.filterMap_congr fun rule listed => own rule listed node other inner place
    have children : children.flatMap (·.outcomes node place) =
        children.flatMap (·.outcomes other place) :=
      List.flatMap_congr fun child listed => ih child listed inner place
    simp only [outcomesOfAll_eq_flatMap, rules, children]

end OrdersContract
