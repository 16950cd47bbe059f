import OrdersContract.Document.Field
import OrdersContract.Proofs.ReadValues
import OrdersContract.Proofs.WrittenValues

set_option autoImplicit false

namespace OrdersContract

open Json Text

namespace Text

def BeginsWithDigit (chars : List Char) : Prop := ∃ c rest, chars = c :: rest ∧ isDigit c = true

theorem beginsWithDigit_decimal (value : Nat) : BeginsWithDigit (decimal value) := by
  cases written : decimal value with
  | nil => exact absurd written (decimal_ne_nil value)
  | cons c rest => exact ⟨c, rest, rfl, isDigit_of_mem_decimal (written ▸ List.mem_cons_self)⟩

end Text

namespace Number.Double

theorem beginsWithDigit_positional {digits : List Char} (begins : BeginsWithDigit digits)
    (exponent : Int) : BeginsWithDigit (positional digits exponent) := by
  obtain ⟨c, rest, rfl, digit⟩ := begins
  simp only [positional]
  split
  next => exact ⟨c, _, rfl, digit⟩
  next =>
    split
    next inside =>
      have taken : (c :: rest).length - exponent.natAbs = rest.length - exponent.natAbs + 1 := by
        rw [List.length_cons] at inside ⊢
        omega
      exact ⟨c, _, by rw [taken, List.take_succ_cons, List.cons_append], digit⟩
    next => exact ⟨'0', _, rfl, rfl⟩

theorem beginsWithDigit_scientific {digits : List Char} (begins : BeginsWithDigit digits)
    (leading : Int) : BeginsWithDigit (scientific digits leading) := by
  obtain ⟨c, rest, rfl, digit⟩ := begins
  exact ⟨c, _, rfl, digit⟩

theorem chars_begin (d : Double) :
    BeginsWithDigit d.chars ∨ ∃ rest, d.chars = '-' :: rest := by
  have digits := beginsWithDigit_decimal (shortest d.magnitude).digits
  by_cases negative : d.negative
  next =>
    simp only [chars, negative, if_true]
    exact .inr ⟨_, rfl⟩
  next =>
    simp only [chars, negative, Bool.false_eq_true, if_false]
    split
    next => exact .inl (beginsWithDigit_positional digits _)
    next => exact .inl (beginsWithDigit_scientific digits _)

end Number.Double

namespace Json

theorem Numeric.chars_begin (n : Numeric) :
    BeginsWithDigit n.chars ∨ ∃ rest, n.chars = '-' :: rest := by
  cases n with
  | double d => exact d.chars_begin
  | integer n =>
    by_cases negative : n.val < 0
    next => exact .inr ⟨_, if_pos negative⟩
    next =>
      have written : (integer n).chars = decimal n.val.natAbs := if_neg negative
      exact .inl (written ▸ beginsWithDigit_decimal _)

theorem Value.head?_chars_ne (value : Value) : value.chars.head? ≠ some 'u' := by
  cases value with
  | null => decide
  | bool b => cases b <;> decide
  | number n =>
    rw [Value.chars]
    obtain ⟨c, rest, written, digit⟩ | ⟨rest, written⟩ := n.chars_begin
    · rw [written, List.head?_cons, ne_eq, Option.some.injEq]
      rintro rfl
      exact absurd digit (by decide)
    · simp [written]
  | string s => simp [Value.chars, quotedChars]
  | array items => simp [Value.chars]
  | object members => simp [Value.chars]

end Json

namespace Field

theorem shown_ne_missing (value : Value) : (present value).shown ≠ missing.shown := by
  intro same
  have begins : value.chars.head? = some 'u' := by
    have chars : value.text.toList = "undefined".toList := congrArg String.toList same
    rw [Value.text, String.toList_ofList] at chars
    rw [chars]
    rfl
  exact value.head?_chars_ne begins

theorem parse_shown {value : Value} (exact : value.ExactWithin 127) (sorted : value.Sorted) :
    Json.parse (Utf8.encode (present value).shown.toList) = .ok value := by
  have read := exact.parse_text
  rwa [sorted.ordered_eq] at read

-- The members of a value that comes from a document are in order.
theorem parse_shown_of_parse {bytes : List UInt8} {value : Value}
    (read : Json.parse bytes = .ok value) (exact : value.ExactWithin 127) :
    Json.parse (Utf8.encode (present value).shown.toList) = .ok value :=
  parse_shown exact (sorted_of_parse read)

/-- A field that is missing or holds a value without floating-point numbers, nested less than 128
levels deep. -/
inductive IsExact : Field → Prop
  | missing : IsExact missing
  | present {value : Value} (exact : value.ExactWithin 127) (sorted : value.Sorted) :
    IsExact (present value)

theorem IsExact.eq_of_shown {field other : Field} (exact : field.IsExact) (alsoExact : other.IsExact)
    (same : field.shown = other.shown) : field = other := by
  cases exact with
  | missing =>
    cases alsoExact with
    | missing => rfl
    | present => exact absurd same.symm (shown_ne_missing _)
  | @present value exact sorted =>
    cases alsoExact with
    | missing => exact absurd same (shown_ne_missing _)
    | @present other alsoExact alsoSorted =>
      have read := parse_shown exact sorted
      rw [same, parse_shown alsoExact alsoSorted, Except.ok.injEq] at read
      rw [read]

/--
The text shown of a value without floating-point numbers that is nested less than 128 levels deep is
a JSON text from which that value is read. So no two such fields show the same text, be they missing
or present, and no value at all shows the text of a missing field.
-/
theorem shown_read_back :
    (∀ value : Value, value.ExactWithin 127 → value.Sorted →
      Json.parse (Utf8.encode (present value).shown.toList) = .ok value) ∧
    (∀ field other : Field, field.IsExact → other.IsExact → field.shown = other.shown →
      field = other) ∧
    ∀ value : Value, (present value).shown ≠ missing.shown :=
  ⟨fun _ exact sorted => parse_shown exact sorted,
    fun _ _ exact alsoExact same => exact.eq_of_shown alsoExact same, shown_ne_missing⟩

theorem nestedField_read_back :
    let least : Integer := ⟨-0x8000000000000000, by decide, by decide⟩
    let greatest : Integer := ⟨0xFFFFFFFFFFFFFFFF, by decide, by decide⟩
    let value : Value := .object
      [("a", .array [.number (.integer least), .number (.integer greatest), .null, .bool true]),
        ("a\"", .object [("", .string "\\\n\x01\u20ac")])]
    value.ExactWithin 127 ∧ value.Sorted ∧
      (present value).shown =
        "\x7b\"a\":[-9223372036854775808,18446744073709551615,null,true]," ++
          "\"a\\\"\":\x7b\"\":\"\\\\\\n\\u0001\u20ac\"\x7d\x7d" ∧
      Json.parse (Utf8.encode (present value).shown.toList) = .ok value ∧
      (present value).shown ≠ (present .null).shown ∧
      (present (.string "undefined")).shown ≠ missing.shown := by
  intro least greatest value
  have exact : value.ExactWithin 127 := by
    refine .object (List.forall_mem_cons.mpr ⟨.array ?_, ?_⟩)
    · simp [Value.ExactWithin.number, Value.ExactWithin.null, Value.ExactWithin.bool]
    · simpa using Value.ExactWithin.object (by simpa using Value.ExactWithin.string ..)
  have sorted : value.Sorted := by
    refine .object ?_ (List.forall_mem_cons.mpr ⟨.array ?_, ?_⟩)
    · exact List.pairwise_pair.mpr (show "a" < "a\"" by decide)
    · simp [Value.Sorted.number, Value.Sorted.null, Value.Sorted.bool]
    · simpa using Value.Sorted.object (List.pairwise_singleton _ _)
        (by simpa using Value.Sorted.string _)
  obtain ⟨parsed, distinct, undefined⟩ := shown_read_back
  refine ⟨exact, sorted, by decide +kernel, parsed value exact sorted, ?_, undefined _⟩
  intro same
  have equal := distinct _ _ (.present exact sorted) (.present (.null 127) .null) same
  simp [value] at equal

end Field

end OrdersContract
