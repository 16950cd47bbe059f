import OrdersContract.Document.Path
import OrdersContract.Proofs.Fields
import OrdersContract.Proofs.OrderedMembers

set_option autoImplicit false

namespace OrdersContract.Json.Value

def set (node : Value) (name : String) (value : Value) : Value :=
  match node with
  | .object members => .object (setMember name value members)
  | other => other

def without (node : Value) (name : String) : Value :=
  match node with
  | .object members => .object (members.filter (·.1 ≠ name))
  | other => other

/-- Changes what a path leads to. A path that leads nowhere changes nothing. -/
def changeAt (change : Value → Value) : Path → Value → Value
  | [], node => change node
  | .field name :: rest, node => (node.get? name).elim node fun held =>
    node.set name (changeAt change rest held)
  | .index i :: rest, node => node.items?.elim node fun items =>
    .array (items.modify i (changeAt change rest))

section Lookups

variable {node other value : Value} {name : String}

theorem elements_congr (same : node.field name = other.field name) :
    node.elements name = other.elements name := by
  rw [elements, elements?, same]
  rfl

theorem length?_congr (same : node.field name = other.field name) :
    node.length? name = other.length? name := by
  rw [length?, elements?, same]
  rfl

theorem get?_set (object : ∃ members, node = .object members) (other : String) :
    (node.set name value).get? other = if other = name then some value else node.get? other := by
  obtain ⟨members, rfl⟩ := object
  exact lookup_setMember other name value members

theorem field_set (object : ∃ members, node = .object members) (other : String) :
    (node.set name value).field other =
      if other = name then .ofOption value else node.field other := by
  rw [field, get?_set object, apply_ite Field.ofOption]
  rfl

theorem field_set_self (object : ∃ members, node = .object members) (filled : value ≠ .null) :
    (node.set name value).field name = .present value :=
  field_eq_present_iff.mpr ⟨by rw [get?_set object, if_pos rfl], filled⟩

theorem get?_without (node : Value) (name other : String) :
    (node.without name).get? other = if other = name then none else node.get? other := by
  cases node with
  | object members =>
    rw [without, get?, get?]
    induction members with
    | nil => simp
    | cons member rest ih =>
      obtain ⟨key, held⟩ := member
      rw [lookup_member, List.filter_cons]
      split
      next kept =>
        have apart : key ≠ name := by simpa using kept
        rw [lookup_member, ih]
        by_cases same : other = key
        next => rw [if_pos same, if_pos same, if_neg (same ▸ apart)]
        next => rw [if_neg same, if_neg same]
      next dropped =>
        obtain rfl : key = name := by simpa using dropped
        rw [ih]
        by_cases same : other = key
        next => rw [if_pos same, if_pos same]
        next => rw [if_neg same, if_neg same, if_neg same]
  | _ => simp [without, get?]

theorem field_without (node : Value) (name other : String) :
    (node.without name).field other = if other = name then .missing else node.field other := by
  rw [field, get?_without, apply_ite Field.ofOption]
  rfl

end Lookups

section Paths

variable {change : Value → Value} {node : Value} {name : String} {items : List Value}

theorem changeAt_append (change : Value → Value) (path rest : Path) :
    changeAt change (path ++ rest) = changeAt (changeAt change rest) path := by
  funext node
  induction path generalizing node with
  | nil => rfl
  | cons step path ih =>
    cases step with
    | field name => simp only [List.cons_append, changeAt, ih]
    | index i => simp only [List.cons_append, changeAt, funext ih]

theorem changeAt_element (found : node.get? name = some (.array items)) (i : Nat) :
    node.changeAt change [.field name, .index i] =
      node.set name (.array (items.modify i change)) := by
  simp only [changeAt, found, Option.elim_some]
  rfl

theorem get?_changeAt (found : node.get? name = some (.array items)) (i : Nat) (other : String) :
    (node.changeAt change [.field name, .index i]).get? other =
      if other = name then some (.array (items.modify i change)) else node.get? other := by
  rw [changeAt_element found, get?_set (isObject_of_get? found)]

theorem get?_changeAt_self (found : node.get? name = some (.array items)) (i : Nat) :
    (node.changeAt change [.field name, .index i]).get? name =
      some (.array (items.modify i change)) := by
  rw [get?_changeAt found, if_pos rfl]

theorem field_changeAt_of_ne (found : node.get? name = some (.array items)) (i : Nat)
    {other : String} (apart : other ≠ name) :
    (node.changeAt change [.field name, .index i]).field other = node.field other := by
  rw [field, field, get?_changeAt found, if_neg apart]

theorem elements_changeAt (found : node.get? name = some (.array items)) (i : Nat) :
    (node.changeAt change [.field name, .index i]).elements name = items.modify i change :=
  elements_eq_of_get? (get?_changeAt_self found i)

end Paths

end OrdersContract.Json.Value
