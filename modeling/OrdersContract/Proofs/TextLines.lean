import OrdersContract.Text.Pieces

set_option autoImplicit false

namespace OrdersContract.Text

def textLines (text : String) : List String := ((pieces '\n' text.toList).dropLast).map .ofList

theorem textLines_join {lines : List String} (unbroken : ∀ line ∈ lines, '\n' ∉ line.toList) :
    textLines (String.join (lines.map (· ++ "\n"))) = lines := by
  induction lines with
  | nil => rfl
  | cons line rest ih =>
    have spelled : (String.join ((line :: rest).map (· ++ "\n"))).toList =
        line.toList ++ '\n' :: (String.join (rest.map (· ++ "\n"))).toList := by
      simp
    have others := ih fun other listed => unbroken other (List.mem_cons_of_mem _ listed)
    rw [textLines, spelled, pieces_append, pieces_of_not_mem (unbroken line List.mem_cons_self),
      List.singleton_append, List.dropLast_cons_of_ne_nil (pieces_ne_nil _ _), List.map_cons,
      String.ofList_toList]
    exact congrArg (line :: ·) others

def begins (mark line : String) : Bool := mark.toList.isPrefixOf line.toList

theorem begins_iff {mark line : String} : begins mark line = true ↔ mark.toList <+: line.toList :=
  List.isPrefixOf_iff_prefix

@[simp] theorem begins_append (mark rest : String) : begins mark (mark ++ rest) = true := by
  rw [begins_iff, String.toList_append]
  exact List.prefix_append _ _

def Apart (mark other : String) : Prop := begins mark other = false ∧ begins other mark = false

instance (mark other : String) : Decidable (Apart mark other) :=
  inferInstanceAs (Decidable (_ ∧ _))

namespace Apart

variable {mark other : String}

theorem symm (apart : Apart mark other) : Apart other mark := And.symm apart

theorem begins_append (apart : Apart mark other) (rest : String) :
    begins mark (other ++ rest) = false := by
  rw [Bool.eq_false_iff]
  intro holds
  have here := begins_iff.mp holds
  have there := begins_iff.mp (Text.begins_append other rest)
  rcases List.prefix_or_prefix_of_prefix here there with short | long
  · exact Bool.eq_false_iff.mp apart.1 (begins_iff.mpr short)
  · exact Bool.eq_false_iff.mp apart.2 (begins_iff.mpr long)

theorem begins_empty (apart : Apart mark other) : begins mark "" = false := by
  rw [Bool.eq_false_iff]
  intro holds
  have empty : mark.toList = [] := by simpa using begins_iff.mp holds
  exact Bool.eq_false_iff.mp apart.1 (begins_iff.mpr (empty ▸ List.nil_prefix))

theorem append_ne (apart : Apart mark other) (rest more : String) :
    mark ++ rest ≠ other ++ more := by
  intro same
  have here := Text.begins_append mark rest
  rw [same, apart.begins_append] at here
  exact Bool.noConfusion here

end Apart

theorem append_mark_inj {mark : String} (before after : List Char)
    (spelled : mark.toList = before ++ ' ' :: after) (unspacedMark : ' ' ∉ before)
    {front other rest more : String} (unspaced : ' ' ∉ front.toList)
    (alsoUnspaced : ' ' ∉ other.toList)
    (same : front ++ (mark ++ rest) = other ++ (mark ++ more)) : front = other ∧ rest = more := by
  have cut {front : String} (unspaced : ' ' ∉ front.toList) (rest : String) :
      cut? ' ' (front ++ (mark ++ rest)).toList =
        some (front.toList ++ before, after ++ rest.toList) := by
    have ends : (front ++ (mark ++ rest)).toList =
        (front.toList ++ before) ++ ' ' :: (after ++ rest.toList) := by
      simp [spelled]
    rw [ends]
    exact cut?_append (by simp [unspaced, unspacedMark]) _
  have here := cut unspaced rest
  rw [same, cut alsoUnspaced, Option.some.injEq, Prod.mk.injEq, List.append_cancel_right_eq,
    List.append_cancel_left_eq, String.toList_inj, String.toList_inj] at here
  exact ⟨here.1.symm, here.2.symm⟩

def linesStarting (mark : String) (lines : List String) : List String := lines.filter (begins mark)

section

variable {mark : String}

@[simp] theorem linesStarting_append (mark : String) (lines others : List String) :
    linesStarting mark (lines ++ others) = linesStarting mark lines ++ linesStarting mark others :=
  List.filter_append ..

theorem linesStarting_flatMap {α : Type} (mark : String) (items : List α) (lines : α → List String) :
    linesStarting mark (items.flatMap lines) =
      items.flatMap fun item => linesStarting mark (lines item) :=
  List.filter_flatMap ..

theorem linesStarting_cons_of_begins {line : String} (here : begins mark line = true)
    (rest : List String) : linesStarting mark (line :: rest) = line :: linesStarting mark rest :=
  List.filter_cons_of_pos here

theorem linesStarting_cons_of_not_begins {line : String} (other : begins mark line = false)
    (rest : List String) : linesStarting mark (line :: rest) = linesStarting mark rest :=
  List.filter_cons_of_neg (Bool.eq_false_iff.mp other)

end

end OrdersContract.Text
