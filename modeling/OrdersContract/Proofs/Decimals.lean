import OrdersContract.Text.Blank
import OrdersContract.Text.Digits

set_option autoImplicit false

namespace OrdersContract.Text

theorem digitsBefore_of_le {base value : Nat} (positional : 2 ≤ base) (large : base ≤ value)
    (rest : List Char) : digitsBefore base value rest =
      digitsBefore base (value / base) (digitChar (value % base) :: rest) := by
  rw [digitsBefore, if_neg (Nat.not_lt.mpr positional), if_neg (Nat.not_lt.mpr large)]

theorem digitsBefore_eq_append (base value : Nat) (rest : List Char) :
    digitsBefore base value rest = digitsBefore base value [] ++ rest := by
  induction value using Nat.strongRecOn generalizing rest with
  | ind value ih =>
    by_cases degenerate : base < 2
    next => simp [digitsBefore, degenerate]
    next =>
      by_cases last : value < base
      next => simp [digitsBefore, degenerate, last]
      next =>
        have smaller : value / base < value := Nat.div_lt_self (by omega) (by omega)
        have step := digitsBefore_of_le (Nat.not_lt.mp degenerate) (Nat.not_lt.mp last)
        rw [step rest, step [], ih _ smaller, ih _ smaller [_], List.append_assoc,
          List.singleton_append]

theorem decimal_of_lt {value : Nat} (small : value < 10) : decimal value = [digitChar value] := by
  simp [decimal, digitsBefore, small]

theorem decimal_of_le {value : Nat} (large : 10 ≤ value) :
    decimal value = decimal (value / 10) ++ [digitChar (value % 10)] := by
  rw [decimal, digitsBefore_of_le (by decide) large, digitsBefore_eq_append]
  rfl

theorem digitValue?_digitChar {digit : Nat} (small : digit < 10) :
    digitValue? (digitChar digit) = some digit := by
  have all : ∀ digit : Fin 10, digitValue? (digitChar digit) = some digit.val := by decide
  exact all ⟨digit, small⟩

theorem isDigit_digitChar {digit : Nat} (small : digit < 10) : isDigit (digitChar digit) = true := by
  rw [isDigit, digitValue?_digitChar small]
  rfl

def decimalDigits (value : Nat) : List Nat :=
  if value < 10 then [value] else decimalDigits (value / 10) ++ [value % 10]

theorem decimalDigits_of_lt {value : Nat} (small : value < 10) : decimalDigits value = [value] := by
  rw [decimalDigits, if_pos small]

theorem decimalDigits_of_le {value : Nat} (large : 10 ≤ value) :
    decimalDigits value = decimalDigits (value / 10) ++ [value % 10] := by
  rw [decimalDigits, if_neg (Nat.not_lt.mpr large)]

theorem decimal_eq_map (value : Nat) : decimal value = (decimalDigits value).map digitChar := by
  induction value using decimalDigits.induct with
  | case1 value small => simp [decimal_of_lt small, decimalDigits_of_lt small]
  | case2 value large ih =>
    have large := Nat.not_lt.mp large
    rw [decimal_of_le large, decimalDigits_of_le large, ih, List.map_append, List.map_singleton]

theorem lt_of_mem_decimalDigits {value digit : Nat} (member : digit ∈ decimalDigits value) :
    digit < 10 := by
  induction value using decimalDigits.induct with
  | case1 value small => simp_all [decimalDigits_of_lt small]
  | case2 value large ih =>
    rw [decimalDigits_of_le (Nat.not_lt.mp large), List.mem_append, List.mem_singleton] at member
    cases member with
    | inl front => exact ih front
    | inr last => omega

theorem numeral_decimalDigits (value : Nat) : numeral 10 (decimalDigits value) = value := by
  induction value using decimalDigits.induct with
  | case1 value small => simp [decimalDigits_of_lt small, numeral]
  | case2 value large ih =>
    rw [decimalDigits_of_le (Nat.not_lt.mp large), numeral, List.foldl_append, ← numeral, ih]
    simp only [List.foldl_cons, List.foldl_nil]
    omega

theorem decimalDigits_ne_nil (value : Nat) : decimalDigits value ≠ [] := by
  rw [decimalDigits]
  split <;> simp

theorem zero_leads_decimalDigits {value : Nat} {rest : List Nat}
    (leads : decimalDigits value = 0 :: rest) : rest = [] := by
  induction value using decimalDigits.induct generalizing rest with
  | case1 value small => simp_all [decimalDigits_of_lt small]
  | case2 value large ih =>
    have large := Nat.not_lt.mp large
    rw [decimalDigits_of_le large] at leads
    cases front : decimalDigits (value / 10) with
    | nil => exact absurd front (decimalDigits_ne_nil _)
    | cons digit others =>
      rw [front, List.cons_append, List.cons.injEq] at leads
      obtain rfl := leads.1
      have none := ih front
      -- Nothing but zero has a zero in front.
      have value_zero := numeral_decimalDigits (value / 10)
      rw [front, none] at value_zero
      simp only [numeral, List.foldl_cons, List.foldl_nil] at value_zero
      omega

theorem decimal_ne_nil (value : Nat) : decimal value ≠ [] := by
  simp [decimal_eq_map, decimalDigits_ne_nil]

theorem isDigit_of_mem_decimal {value : Nat} {c : Char} (member : c ∈ decimal value) :
    isDigit c = true := by
  rw [decimal_eq_map] at member
  obtain ⟨digit, listed, rfl⟩ := List.mem_map.mp member
  exact isDigit_digitChar (lt_of_mem_decimalDigits listed)

theorem not_mem_decimal {c : Char} (other : isDigit c = false) (value : Nat) : c ∉ decimal value := by
  intro member
  have digit := isDigit_of_mem_decimal member
  rw [other] at digit
  contradiction

theorem not_mem_decimalText {c : Char} (other : isDigit c = false) (value : Nat) :
    c ∉ (decimalText value).toList := by
  rw [decimalText, String.toList_ofList]
  exact not_mem_decimal other value

theorem mapM_digitValue? {digits : List Nat} (small : ∀ digit ∈ digits, digit < 10) :
    (digits.map digitChar).mapM digitValue? = some digits := by
  induction digits with
  | nil => rfl
  | cons digit rest ih =>
    have own := digitValue?_digitChar (small digit List.mem_cons_self)
    have others := ih fun digit member => small digit (List.mem_cons_of_mem _ member)
    simp [own, others]

theorem readDecimal?_decimal (value : Nat) : readDecimal? (decimal value) = some value := by
  have filled : (decimal value).isEmpty = false := by
    simpa using decimal_ne_nil value
  have small : ∀ digit ∈ decimalDigits value, digit < 10 := fun _ => lt_of_mem_decimalDigits
  have digits := mapM_digitValue? small
  rw [readDecimal?, filled, decimal_eq_map, digits]
  simp [numeral_decimalDigits]

theorem decimal_injective {a b : Nat} (same : decimal a = decimal b) : a = b := by
  have read := congrArg readDecimal? same
  rwa [readDecimal?_decimal, readDecimal?_decimal, Option.some.injEq] at read

theorem isBlank_of_isDigit {c : Char} (digit : isDigit c = true) : isBlank c = false := by
  have apart : blanks.all (fun c => !isDigit c) = true := by decide
  rw [isBlank, Bool.eq_false_iff, Ne, List.contains_iff_mem]
  intro blank
  simpa [digit] using List.all_eq_true.mp apart c blank

theorem mapM_digitValue?_eq_some_iff {chars : List Char} {digits : List Nat} :
    chars.mapM digitValue? = some digits ↔
      (∀ c ∈ chars, isDigit c = true) ∧ (chars.map fun c => c.toNat - '0'.toNat) = digits := by
  induction chars generalizing digits with
  | nil => simp
  | cons c rest ih =>
    by_cases digit : '0' ≤ c ∧ c ≤ '9'
    next =>
      have value : digitValue? c = some (c.toNat - '0'.toNat) := if_pos digit
      have own : isDigit c = true := by rw [isDigit, value, Option.isSome_some]
      simp only [List.mapM_cons, Option.bind_eq_bind, value, Option.bind_some, Option.pure_def,
        Option.bind_eq_some_iff, ih, Option.some.injEq, List.forall_mem_cons, own, true_and,
        List.map_cons]
      constructor
      · rintro ⟨_, ⟨others, rfl⟩, rfl⟩
        exact ⟨others, rfl⟩
      · rintro ⟨others, rfl⟩
        exact ⟨_, ⟨others, rfl⟩, rfl⟩
    next =>
      have value : digitValue? c = none := if_neg digit
      have own : isDigit c = false := by rw [isDigit, value, Option.isSome_none]
      simp [value, own]

theorem readDecimal?_eq_some_iff {chars : List Char} {value : Nat} :
    readDecimal? chars = some value ↔ chars ≠ [] ∧ (∀ c ∈ chars, isDigit c = true) ∧
      numeral 10 (chars.map fun c => c.toNat - '0'.toNat) = value := by
  by_cases empty : chars = []
  next => simp [readDecimal?, empty]
  next =>
    simp only [readDecimal?, List.isEmpty_iff, empty, if_false, Option.map_eq_some_iff,
      mapM_digitValue?_eq_some_iff, not_false_eq_true, true_and, ne_eq]
    constructor
    · rintro ⟨_, ⟨digits, rfl⟩, written⟩
      exact ⟨digits, written⟩
    · rintro ⟨digits, written⟩
      exact ⟨_, ⟨digits, rfl⟩, written⟩

end OrdersContract.Text
