import OrdersContract.Contract.MinorUnits
import OrdersContract.Proofs.Decimals
import OrdersContract.Proofs.Trees
import OrdersContract.Proofs.Walk
import OrdersContract.Text.Pieces

set_option autoImplicit false

namespace OrdersContract

open Json Text

namespace Path

/-- A name that stays whole where the text of a path is cut. -/
def IsPlain (name : String) : Prop :=
  name ≠ "" ∧ '.' ∉ name.toList ∧ '[' ∉ name.toList ∧ ']' ∉ name.toList

instance (name : String) : Decidable (IsPlain name) := inferInstanceAs (Decidable (_ ∧ _))

def index? (chars : List Char) : Option Step :=
  match cut? ']' chars with
  | some (digits, []) => (readDecimal? digits).map .index
  | _ => none

def segment? (chars : List Char) : Option Path :=
  match pieces '[' chars with
  | [] => none
  | name :: indices => (indices.mapM index?).map (.field (.ofList name) :: ·)

def ofText? (text : String) : Option Path :=
  if text.isEmpty then some [] else ((pieces '.' text.toList).mapM segment?).map List.flatten

example : ofText? "orders[2].items" = some [.field "orders", .index 2, .field "items"] := by
  decide

theorem index?_decimal (i : Nat) : index? (decimal i ++ [']']) = some (.index i) := by
  have unbracketed : ']' ∉ decimal i := not_mem_decimal (by decide) i
  rw [index?, cut?_append unbracketed]
  simp [readDecimal?_decimal]

theorem segment?_name {name : String} (plain : IsPlain name) :
    segment? name.toList = some [.field name] := by
  rw [segment?, pieces_of_not_mem plain.2.2.1]
  simp

theorem segment?_element {name : String} (plain : IsPlain name) (i : Nat) :
    segment? (name.toList ++ '[' :: (decimal i ++ [']'])) = some [.field name, .index i] := by
  have unopened : '[' ∉ decimal i ++ [']'] := by
    simp [not_mem_decimal (show isDigit '[' = false by decide)]
  rw [segment?, pieces_append, pieces_of_not_mem plain.2.2.1, pieces_of_not_mem unopened]
  simp [index?_decimal]

-- A segment follows a point unless nothing is before it.
theorem ofText?_of_segment {path steps : Path} {segment : List Char}
    (read : ofText? path.text = some path) (filled : segment ≠ []) (whole : '.' ∉ segment)
    (steps_of : segment? segment = some steps)
    (written : (text (path ++ steps)).toList =
      if path.text.isEmpty then segment else path.text.toList ++ '.' :: segment) :
    ofText? (text (path ++ steps)) = some (path ++ steps) := by
  have filled : (text (path ++ steps)).isEmpty = false := by
    rw [String.isEmpty_eq_false_iff, ne_eq, ← String.toList_eq_nil_iff, written]
    split <;> simp [filled]
  rw [ofText?, filled, written]
  cases start : path.text.isEmpty with
  | true =>
    have root : path = [] := by simpa [ofText?, start] using read.symm
    simp [pieces_of_not_mem whole, steps_of, root]
  | false =>
    simp only [ofText?, start, Bool.false_eq_true, if_false, Option.map_eq_some_iff] at read
    obtain ⟨front, cut, joined⟩ := read
    simp [pieces_append, pieces_of_not_mem whole, List.mapM_append, cut, steps_of, joined]

theorem ofText?_field {path : Path} {name : String} (plain : IsPlain name)
    (read : ofText? path.text = some path) :
    ofText? (text (path ++ [.field name])) = some (path ++ [.field name]) := by
  apply ofText?_of_segment read (by simpa using plain.1) plain.2.1 (segment?_name plain)
  rw [text_append, extend]
  split <;> simp

theorem ofText?_element {path : Path} {name : String} (plain : IsPlain name) (i : Nat)
    (read : ofText? path.text = some path) :
    ofText? (text (path ++ [.field name, .index i])) = some (path ++ [.field name, .index i]) := by
  have whole : '.' ∉ name.toList ++ '[' :: (decimal i ++ [']']) := by
    simp [plain.2.1, not_mem_decimal (show isDigit '.' = false by decide)]
  apply ofText?_of_segment read (by simp) whole (segment?_element plain i)
  have split_steps : path ++ [.field name, .index i] = (path ++ [.field name]) ++ [.index i] := by
    simp
  rw [split_steps, text_append, text_append, extend, extend]
  split <;> simp [decimalText]

end Path

theorem Scope.Leads.ofText?_eq {scope : Scope} {parent node : Value} {path place : Path} {i : Nat}
    (leads : scope.Leads parent path i node place)
    (plain : ∀ name, scope.name? = some name → Path.IsPlain name)
    (read : Path.ofText? path.text = some path) : Path.ofText? place.text = some place := by
  cases leads with
  | current => exact read
  | field => exact Path.ofText?_field (plain _ rfl) read
  | each => exact Path.ofText?_element (plain _ rfl) _ read

theorem Group.Visited.ofText?_eq {group : Group} {parent : Value} {path : Path} {visit : Visit}
    (visited : group.Visited parent path visit)
    (plain : ∀ name ∈ group.scopeNames, Path.IsPlain name)
    (read : Path.ofText? path.text = some path) :
    Path.ofText? visit.path.text = some visit.path := by
  have own {group : Group} (plain : ∀ name ∈ group.scopeNames, Path.IsPlain name) :
      ∀ name, group.scope.name? = some name → Path.IsPlain name :=
    fun name asked => plain name (mem_scopeNames_iff.mpr (.inl asked))
  induction visited with
  | precondition => exact read
  | rule _ leads => exact leads.ofText?_eq (own plain) read
  | child _ leads listed _ ih =>
    apply ih
    · intro name below
      have child := List.mem_of_getElem? listed
      exact plain name (mem_scopeNames_iff.mpr (.inr ⟨_, child, below⟩))
    · exact leads.ofText?_eq (own plain) read

/-- Where the names of the scopes are plain, the text of a place leads back to the node that was
visited there, and two places have one text only if they are one. -/
theorem RuleSet.visits_have_addresses (ruleSet : RuleSet) (document : Value)
    (plain : ∀ name ∈ ruleSet.root.scopeNames, Path.IsPlain name) :
    ∃ visits : List Visit,
      (∀ visit, visit ∈ visits ↔ ruleSet.root.Visited document [] visit) ∧
      (ruleSet.check document).outcomes = visits.map Visit.outcome ∧
      (∀ visit ∈ visits, ∃ path, Path.ofText? visit.path.text = some path ∧
        path.follow? document = some visit.node) ∧
      ∀ first ∈ visits, ∀ second ∈ visits,
        first.path.text = second.path.text ↔ first.path = second.path := by
  have visited := ruleSet.root.mem_visits_iff document []
  have reads (visit : Visit) (member : visit ∈ ruleSet.root.visits document []) :
      Path.ofText? visit.path.text = some visit.path :=
    ((visited visit).mp member).ofText?_eq plain rfl
  refine ⟨ruleSet.root.visits document [], visited, ?_, ?_, ?_⟩
  · exact ruleSet.root.outcomes_eq_map_visits document []
  · intro visit member
    exact ⟨visit.path, reads visit member, ((visited visit).mp member).follow?_eq rfl⟩
  · intro first here second there
    constructor
    · intro same
      have paths := reads first here
      rwa [same, reads second there, Option.some.injEq, eq_comm] at paths
    · exact congrArg Path.text

theorem MinorUnits.visits_addressed :
    let rules := Contract.MinorUnits.rules
    let document := Value.object [("orders", .array [.object [("items", .array [.null, .null])]])]
    (∀ name ∈ rules.root.scopeNames, Path.IsPlain name) ∧
      ∃ visits : List Visit,
        (∀ visit, visit ∈ visits ↔ rules.root.Visited document [] visit) ∧
        ∀ visit ∈ visits, ∃ path, Path.ofText? visit.path.text = some path ∧
          path.follow? document = some visit.node := by
  intro rules document
  have plain : ∀ name ∈ rules.root.scopeNames, Path.IsPlain name := by decide
  obtain ⟨visits, listed, _, addressed, _⟩ := RuleSet.visits_have_addresses rules document plain
  exact ⟨plain, visits, listed, addressed⟩

end OrdersContract
