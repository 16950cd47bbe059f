set_option autoImplicit false

namespace OrdersContract.Text

def pieces (separator : Char) : List Char → List (List Char)
  | [] => [[]]
  | c :: rest =>
    if c = separator then [] :: pieces separator rest
    else
      match pieces separator rest with
      | [] => [[c]]
      | first :: others => (c :: first) :: others

theorem pieces_ne_nil (separator : Char) (chars : List Char) : pieces separator chars ≠ [] := by
  cases chars with
  | nil => simp [pieces]
  | cons c rest =>
    simp only [pieces]
    split
    next => simp
    next => split <;> simp

theorem pieces_of_not_mem {separator : Char} {chars : List Char} (absent : separator ∉ chars) :
    pieces separator chars = [chars] := by
  induction chars with
  | nil => rfl
  | cons c rest ih =>
    simp only [List.mem_cons, not_or] at absent
    simp [pieces, Ne.symm absent.1, ih absent.2]

theorem pieces_append (separator : Char) (before after : List Char) :
    pieces separator (before ++ separator :: after) =
      pieces separator before ++ pieces separator after := by
  induction before with
  | nil => simp [pieces]
  | cons c rest ih =>
    by_cases same : c = separator
    next => simp [pieces, same, ih]
    next =>
      simp only [List.cons_append, pieces, same, if_false, ih]
      cases first : pieces separator rest with
      | nil => exact absurd first (pieces_ne_nil separator rest)
      | cons piece others => rfl

def cut? (separator : Char) : List Char → Option (List Char × List Char)
  | [] => none
  | c :: rest =>
    if c = separator then some ([], rest)
    else (cut? separator rest).map fun (before, after) => (c :: before, after)

theorem cut?_append {separator : Char} {before : List Char} (absent : separator ∉ before)
    (after : List Char) : cut? separator (before ++ separator :: after) = some (before, after) := by
  induction before with
  | nil => simp [cut?]
  | cons c rest ih =>
    simp only [List.mem_cons, not_or] at absent
    simp [cut?, Ne.symm absent.1, ih absent.2]

theorem cut?_eq_some_iff {separator : Char} {chars before after : List Char} :
    cut? separator chars = some (before, after) ↔
      separator ∉ before ∧ chars = before ++ separator :: after := by
  constructor
  · intro cut
    induction chars generalizing before with
    | nil => simp [cut?] at cut
    | cons c rest ih =>
      by_cases same : c = separator
      next =>
        obtain ⟨rfl, rfl⟩ : [] = before ∧ rest = after := by simpa [cut?, same] using cut
        simp [same]
      next =>
        obtain ⟨later, further, rfl⟩ : ∃ later, cut? separator rest = some (later, after) ∧
            c :: later = before := by
          simpa [cut?, same] using cut
        obtain ⟨absent, rfl⟩ := ih further
        simp [absent, Ne.symm same]
  · intro ⟨absent, whole⟩
    rw [whole, cut?_append absent]

theorem cut?_append_of_not_mem {separator : Char} {later : List Char}
    (absent : separator ∉ later) (chars : List Char) :
    cut? separator (chars ++ later) =
      (cut? separator chars).map fun (before, after) => (before, after ++ later) := by
  induction chars with
  | nil =>
    induction later with
    | nil => rfl
    | cons c rest ih =>
      simp only [List.mem_cons, not_or] at absent
      have none := ih absent.2
      simp only [List.nil_append] at none ⊢
      simp [cut?, Ne.symm absent.1, none]
  | cons c rest ih =>
    by_cases same : c = separator
    next => simp [cut?, same]
    next =>
      simp only [List.cons_append, cut?, same, if_false, ih, Option.map_map]
      rfl

def containsText (part : List Char) : List Char → Bool
  | [] => part.isEmpty
  | c :: rest => part.isPrefixOf (c :: rest) || containsText part rest

theorem takeWhile_append_of_stop {test : Char → Bool} (chars : List Char) {tail : List Char}
    (stop : ∀ c ∈ tail.head?, test c = false) :
    (chars ++ tail).takeWhile test = chars.takeWhile test := by
  induction chars with
  | nil => cases tail <;> simp_all
  | cons c rest ih => by_cases passes : test c <;> simp [passes, ih]

theorem dropWhile_append_of_stop {test : Char → Bool} (chars : List Char) {tail : List Char}
    (stop : ∀ c ∈ tail.head?, test c = false) :
    (chars ++ tail).dropWhile test = chars.dropWhile test ++ tail := by
  induction chars with
  | nil => cases tail <;> simp_all
  | cons c rest ih => by_cases passes : test c <;> simp [passes, ih]

theorem drop_length_takeWhile (test : Char → Bool) (chars : List Char) :
    chars.drop (chars.takeWhile test).length = chars.dropWhile test := by
  induction chars with
  | nil => rfl
  | cons c rest ih => by_cases passes : test c <;> simp [passes, ih]

end OrdersContract.Text
