import OrdersContract.Rule.Basic

set_option autoImplicit false

namespace OrdersContract

def markChars : List Char := ['\x7b', 'a', 't', '\x7d']

example : placeMark.toList = markChars := by
  decide +kernel

def MarkFree (chars : List Char) : Prop := ¬ markChars <:+: chars

/-- The parts of a template between its marks, joined with a place, are a label. -/
def Fills (place template label : List Char) : Prop :=
  ∃ parts : List (List Char), (∀ part ∈ parts, MarkFree part) ∧
    markChars.intercalate parts = template ∧ place.intercalate parts = label

theorem intercalate_cons_prefix (separator part : List Char) (rest : List (List Char)) :
    part <+: separator.intercalate (part :: rest) := by
  cases rest with
  | nil => simp [List.intercalate]
  | cons next others => simp [List.intercalate]

-- A mark that starts further right in a longer part would have been in the part already.
theorem markFree_cons {c : Char} {part chars : List Char} (free : MarkFree part)
    (within : part <+: chars) (other : ¬ markChars <+: c :: chars) : MarkFree (c :: part) := by
  intro found
  rcases List.infix_cons_iff.mp found with start | later
  · apply other
    exact start.trans (List.cons_prefix_cons.mpr ⟨rfl, within⟩)
  · exact free later

theorem putPlace_parts (place template : List Char) :
    ∃ parts : List (List Char), parts ≠ [] ∧ (∀ part ∈ parts, MarkFree part) ∧
      markChars.intercalate parts = template ∧ place.intercalate parts = putPlace place template := by
  induction template using putPlace.induct with
  | case1 rest ih =>
    obtain ⟨parts, filled, free, cut, joined⟩ := ih
    refine ⟨[] :: parts, by simp, ?_, ?_, ?_⟩
    · intro part member
      rcases List.mem_cons.mp member with rfl | member
      · simp [MarkFree, markChars]
      · exact free part member
    · rw [List.intercalate_cons_of_ne_nil filled, cut]
      rfl
    · rw [List.intercalate_cons_of_ne_nil filled, joined, putPlace]
      rfl
  | case2 c rest other ih =>
    obtain ⟨parts, filled, free, cut, joined⟩ := ih
    cases parts with
    | nil => contradiction
    | cons first others =>
      have notMark : ¬ markChars <+: c :: rest := by
        rintro ⟨after, same⟩
        simp only [markChars, List.cons_append, List.nil_append, List.cons.injEq] at same
        exact other after same.1.symm same.2.symm
      refine ⟨(c :: first) :: others, by simp, ?_, ?_, ?_⟩
      · intro part member
        rcases List.mem_cons.mp member with rfl | member
        · exact markFree_cons (free first (by simp))
            (cut ▸ intercalate_cons_prefix markChars first others) notMark
        · exact free part (List.mem_cons_of_mem _ member)
      · rw [List.intercalate_cons_cons_left, cut]
      · rw [List.intercalate_cons_cons_left, joined, putPlace]
        exact other
  | case3 => exact ⟨[[]], by simp, by simp [MarkFree, markChars], rfl, rfl⟩

theorem putPlace_of_markFree (place : List Char) {part : List Char} (free : MarkFree part) :
    putPlace place part = part := by
  induction part with
  | nil => rfl
  | cons c part ih =>
    have later : MarkFree part := fun found => free (List.infix_cons found)
    rw [putPlace, ih later]
    rintro after rfl rfl
    exact free (List.prefix_append markChars after).isInfix

theorem putPlace_append (place : List Char) {part : List Char} (unmarked : '\x7b' ∉ part)
    (rest : List Char) : putPlace place (part ++ rest) = part ++ putPlace place rest := by
  induction part with
  | nil => rfl
  | cons c part ih =>
    simp only [List.mem_cons, not_or] at unmarked
    rw [List.cons_append, putPlace, ih unmarked.2, List.cons_append]
    rintro after rfl
    exact absurd rfl unmarked.1

theorem putPlace_of_unmarked (place : List Char) {part : List Char} (unmarked : '\x7b' ∉ part) :
    putPlace place part = part := by
  simpa [putPlace] using putPlace_append place unmarked []

theorem putPlace_ne_nil {template : List Char} (told : putPlace [] template ≠ [])
    (place : List Char) : putPlace place template ≠ [] := by
  induction template using putPlace.induct with
  | case1 rest ih =>
    rw [putPlace, List.nil_append] at told
    rw [putPlace]
    exact List.append_ne_nil_of_right_ne_nil _ (ih told)
  | case2 c rest unmarked =>
    rw [putPlace]
    · exact List.cons_ne_nil _ _
    · exact unmarked
  | case3 => exact absurd rfl told

-- The characters of a mark differ, so none begins inside another one.
theorem putPlace_append_mark (place : List Char) {part : List Char} (free : MarkFree part)
    (rest : List Char) :
    putPlace place (part ++ (markChars ++ rest)) = part ++ (place ++ putPlace place rest) := by
  induction part with
  | nil => rfl
  | cons c part ih =>
    have later : MarkFree part := fun found => free (List.infix_cons found)
    rw [List.cons_append, putPlace, ih later, List.cons_append]
    rintro after rfl same
    match part with
    | [] => simp [markChars] at same
    | [_] => simp [markChars] at same
    | [_, _] => simp [markChars] at same
    | a :: t :: close :: others =>
      simp only [List.cons_append, List.cons.injEq] at same
      obtain ⟨rfl, rfl, rfl, _⟩ := same
      exact free (List.prefix_append markChars others).isInfix

theorem putPlace_intercalate (place : List Char) (parts : List (List Char))
    (free : ∀ part ∈ parts, MarkFree part) :
    putPlace place (markChars.intercalate parts) = place.intercalate parts := by
  induction parts with
  | nil => rfl
  | cons part rest ih =>
    have here := free part (by simp)
    cases rest with
    | nil => simpa using putPlace_of_markFree place here
    | cons next others =>
      have below := ih fun part member => free part (List.mem_cons_of_mem _ member)
      rw [List.intercalate_cons_cons, List.intercalate_cons_cons, List.append_assoc,
        putPlace_append_mark place here, below, List.append_assoc]

theorem fills_iff (place template label : List Char) :
    Fills place template label ↔ label = putPlace place template := by
  constructor
  · rintro ⟨parts, free, rfl, rfl⟩
    exact (putPlace_intercalate place parts free).symm
  · rintro rfl
    obtain ⟨parts, _, free, cut, joined⟩ := putPlace_parts place template
    exact ⟨parts, free, cut, joined⟩

theorem Rule.labelAt_fills (rule : Rule) (path : Path) :
    Fills path.text.toList rule.label.toList (rule.labelAt path).toList := by
  rw [fills_iff, Rule.labelAt, String.toList_ofList]

theorem Rule.prefix_labelAt {rule : Rule} {part rest : String} (label : rule.label = part ++ rest)
    (unmarked : '\x7b' ∉ part.toList) (path : Path) :
    part.toList <+: (rule.labelAt path).toList := by
  rw [Rule.labelAt, String.toList_ofList, label, String.toList_append,
    putPlace_append _ unmarked]
  exact List.prefix_append _ _

theorem Rule.toList_labelAt {rule : Rule} {rest : String} (label : rule.label = placeMark ++ rest)
    (path : Path) :
    (rule.labelAt path).toList = path.text.toList ++ putPlace path.text.toList rest.toList := by
  have mark : placeMark.toList = markChars := by
    decide +kernel
  have free : MarkFree [] := by
    simp [MarkFree, markChars]
  have filled := putPlace_append_mark path.text.toList free rest.toList
  rw [List.nil_append, List.nil_append] at filled
  rw [Rule.labelAt, String.toList_ofList, label, String.toList_append, mark, filled]

theorem Rule.place_prefix_labelAt {rule : Rule} {rest : String}
    (label : rule.label = placeMark ++ rest) (path : Path) :
    path.text.toList <+: (rule.labelAt path).toList := by
  rw [Rule.toList_labelAt label]
  exact List.prefix_append _ _

end OrdersContract
