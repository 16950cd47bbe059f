import OrdersContract.Json.Value

set_option autoImplicit false

namespace OrdersContract.Json

def sortedMembers (members : List (String × Value)) : List (String × Value) :=
  members.foldl (fun done member => setMember member.1 member.2 done) []

theorem lookup_member (name key : String) (value : Value) (members : List (String × Value)) :
    ((key, value) :: members).lookup name =
      if name = key then some value else members.lookup name := by
  by_cases same : name = key
  next => simp [same]
  next => rw [List.lookup_cons, beq_false_of_ne same, if_neg same]

theorem lookup_setMember (name key : String) (value : Value) (members : List (String × Value)) :
    (setMember key value members).lookup name =
      if name = key then some value else members.lookup name := by
  induction members with
  | nil => exact lookup_member name key value []
  | cons member rest ih =>
    obtain ⟨other, kept⟩ := member
    simp only [setMember]
    split
    next => exact lookup_member name key value _
    next =>
      split
      next replaced =>
        rw [lookup_member, lookup_member, ← replaced]
        split <;> rfl
      next apart =>
        rw [lookup_member, lookup_member, ih]
        by_cases same : name = key <;> simp [same, apart]

theorem mem_setMember {key : String} {value : Value} {members : List (String × Value)}
    {member : String × Value} (kept : member ∈ setMember key value members) :
    member = (key, value) ∨ member ∈ members := by
  induction members with
  | nil => simpa [setMember] using kept
  | cons first rest ih =>
    obtain ⟨other, held⟩ := first
    rw [setMember] at kept
    split at kept
    next => exact List.mem_cons.mp kept
    next =>
      split at kept
      next => exact (List.mem_cons.mp kept).imp_right (List.mem_cons_of_mem _)
      next =>
        rcases List.mem_cons.mp kept with same | later
        · exact .inr (same ▸ List.mem_cons_self)
        · exact (ih later).imp_right (List.mem_cons_of_mem _)

theorem mem_of_mem_sortedMembers {members : List (String × Value)} {member : String × Value}
    (kept : member ∈ sortedMembers members) : member ∈ members := by
  have written (members done : List (String × Value))
      (kept : member ∈ members.foldl (fun done member => setMember member.1 member.2 done) done) :
      member ∈ members ∨ member ∈ done := by
    induction members generalizing done with
    | nil => exact .inr kept
    | cons first rest ih =>
      rcases ih _ kept with later | here
      · exact .inl (List.mem_cons_of_mem _ later)
      · exact (mem_setMember here).imp_left fun same => List.mem_cons.mpr (.inl same)
  simpa using written members [] kept

def Ascending (members : List (String × Value)) : Prop :=
  members.Pairwise fun before after => before.1 < after.1

theorem Ascending.setMember {members : List (String × Value)} (keys : Ascending members)
    (key : String) (value : Value) : Ascending (setMember key value members) := by
  induction members with
  | nil => exact List.pairwise_singleton _ _
  | cons first rest ih =>
    obtain ⟨other, kept⟩ := first
    obtain ⟨least, later⟩ := List.pairwise_cons.mp keys
    simp only [Json.setMember]
    split
    next less =>
      refine List.pairwise_cons.mpr ⟨List.forall_mem_cons.mpr ⟨less, ?_⟩, keys⟩
      exact fun member listed => String.lt_trans less (least member listed)
    next notLess =>
      split
      next same => exact List.pairwise_cons.mpr ⟨same ▸ least, later⟩
      next apart =>
        refine List.pairwise_cons.mpr ⟨?_, ih later⟩
        intro member listed
        rcases mem_setMember listed with rfl | before
        · exact Std.lt_of_le_of_ne (String.not_lt.mp notLess) (Ne.symm apart)
        · exact least member before

theorem setMember_behind {key : String} {value : Value} {members : List (String × Value)}
    (before : ∀ member ∈ members, member.1 < key) :
    setMember key value members = members ++ [(key, value)] := by
  induction members with
  | nil => rfl
  | cons first rest ih =>
    obtain ⟨other, kept⟩ := first
    rw [List.forall_mem_cons] at before
    have less : other < key := before.1
    have apart : key ≠ other := fun same => String.lt_irrefl other (same ▸ less)
    rw [setMember, if_neg (String.lt_asymm less), if_neg apart, ih before.2, List.cons_append]

theorem sortedMembers_of_ascending {members : List (String × Value)} (keys : Ascending members) :
    sortedMembers members = members := by
  -- The members that are set already are in front of all others.
  have written (done rest : List (String × Value)) (keys : Ascending (done ++ rest)) :
      rest.foldl (fun done member => setMember member.1 member.2 done) done = done ++ rest := by
    induction rest generalizing done with
    | nil => simp
    | cons member rest ih =>
      have before : ∀ earlier ∈ done, earlier.1 < member.1 := fun earlier listed =>
        (List.pairwise_append.mp keys).2.2 earlier listed member List.mem_cons_self
      rw [List.foldl_cons, setMember_behind before]
      simpa using ih (done ++ [member]) (by simpa using keys)
  exact written [] members keys

namespace Value

mutual

def ordered : Value → Value
  | .array items => .array (orderedItems items)
  | .object members => .object (sortedMembers (orderedMembers members))
  | .null => .null
  | .bool b => .bool b
  | .number n => .number n
  | .string s => .string s
  termination_by structural value => value

def orderedItems : List Value → List Value
  | [] => []
  | item :: rest => item.ordered :: orderedItems rest
  termination_by structural items => items

def orderedMembers : List (String × Value) → List (String × Value)
  | [] => []
  | member :: rest => orderedMember member :: orderedMembers rest
  termination_by structural members => members

def orderedMember : String × Value → String × Value
  | (key, value) => (key, value.ordered)
  termination_by structural member => member

end

theorem orderedItems_eq_map (items : List Value) : orderedItems items = items.map ordered := by
  induction items with
  | nil => rfl
  | cons item rest ih => simp [orderedItems, ih]

theorem orderedMembers_eq_map (members : List (String × Value)) :
    orderedMembers members = members.map fun member => (member.1, member.2.ordered) := by
  induction members with
  | nil => rfl
  | cons member rest ih =>
    obtain ⟨key, value⟩ := member
    simp [orderedMembers, orderedMember, ih]

@[simp] theorem ordered_bool (b : Bool) : (bool b).ordered = bool b := rfl

@[simp] theorem ordered_number (n : Numeric) : (number n).ordered = number n := rfl

@[simp] theorem ordered_string (s : String) : (string s).ordered = string s := rfl

@[simp] theorem ordered_array (items : List Value) :
    (array items).ordered = array (items.map ordered) := by
  rw [ordered, orderedItems_eq_map]

inductive Sorted : Value → Prop
  | null : Sorted .null
  | bool (b : Bool) : Sorted (.bool b)
  | number (n : Numeric) : Sorted (.number n)
  | string (s : String) : Sorted (.string s)
  | array {items : List Value} (each : ∀ item ∈ items, Sorted item) : Sorted (.array items)
  | object {members : List (String × Value)} (keys : Ascending members)
    (each : ∀ member ∈ members, Sorted member.2) : Sorted (.object members)

theorem Sorted.ordered_eq {value : Value} (sorted : value.Sorted) : value.ordered = value := by
  induction sorted with
  | null => rfl
  | bool => rfl
  | number => rfl
  | string => rfl
  | array _ ih =>
    rw [ordered_array, List.map_congr_left ih, List.map_id'']
    exact fun _ => rfl
  | @object members keys _ ih =>
    have kept : members.map (fun member => (member.1, member.2.ordered)) = members := by
      rw [List.map_congr_left fun member listed => by rw [ih member listed], List.map_id'']
      exact fun _ => rfl
    rw [ordered, orderedMembers_eq_map, kept, sortedMembers_of_ascending keys]

-- Of members with one key the last one is kept.
theorem get?_ordered (name : String) (members : List (String × Value)) :
    (object members).ordered.get? name = (members.reverse.lookup name).map ordered := by
  have kept (written done : List (String × Value)) :
      (written.foldl (fun done member => setMember member.1 member.2.ordered done) done).lookup name =
        ((written.reverse.lookup name).map ordered).or (done.lookup name) := by
    induction written generalizing done with
    | nil => simp
    | cons member written ih =>
      rw [List.foldl_cons, ih, lookup_setMember, List.reverse_cons, List.lookup_append,
        lookup_member, List.lookup_nil]
      cases written.reverse.lookup name <;> by_cases same : name = member.1 <;> simp [same]
  have all := kept members []
  rw [ordered, get?, orderedMembers_eq_map, sortedMembers, List.foldl_map, all]
  simp

end Value

end OrdersContract.Json
