import OrdersContract.Json.Read
import OrdersContract.Json.Written
import OrdersContract.Proofs.Decimals

set_option autoImplicit false

namespace OrdersContract.Json

open Text

theorem readWord_append (word : List Char) (rest : Input) :
    readWord word (word.map .char ++ rest) = .ok rest := by
  induction word with
  | nil => rfl
  | cons c word ih => simpa [readWord] using ih

theorem skipSpace_append {blank : List Char} (spaces : ∀ c ∈ blank, isSpace (.char c) = true)
    (rest : Input) : skipSpace (blank.map .char ++ rest) = skipSpace rest := by
  induction blank with
  | nil => rfl
  | cons c blank ih =>
    have here := spaces c List.mem_cons_self
    have behind := ih fun c member => spaces c (List.mem_cons_of_mem _ member)
    rw [skipSpace] at behind ⊢
    simp [here, behind]

theorem skipSpace_cons {c : Char} (solid : isSpace (.char c) = false) (rest : Input) :
    skipSpace (.char c :: rest) = .char c :: rest := by
  simp [skipSpace, solid]

theorem hexDigitValue?_digitChar {digit : Nat} (small : digit < 16) :
    hexDigitValue? (digitChar digit) = some digit := by
  have all : ∀ digit : Fin 16, hexDigitValue? (digitChar digit) = some digit.val := by decide
  exact all ⟨digit, small⟩

theorem byteCount_pos (symbol : Symbol) : 0 < symbol.byteCount := by
  cases symbol with
  | char c => grind [Symbol.byteCount, Utf8.byteCount]
  | stray _ => exact Nat.one_pos

theorem length_le_byteCount (input : Input) : input.length ≤ byteCount input := by
  induction input with
  | nil => exact Nat.le_refl 0
  | cons symbol rest ih =>
    have own := byteCount_pos symbol
    simp only [byteCount, List.length_cons, List.foldr_cons] at ih ⊢
    omega

theorem readHex_digits {digits : List Nat} (four : digits.length = 4)
    (small : ∀ digit ∈ digits, digit < 16) (rest : Input) :
    readHex ((digits.map digitChar).map .char ++ rest) = .ok (numeral 16 digits, rest) := by
  match digits, four with
  | [a, b, c, d], _ =>
    have wide : ¬ byteCount (([a, b, c, d].map digitChar).map .char ++ rest) < 4 := by
      have bound := length_le_byteCount (([a, b, c, d].map digitChar).map .char ++ rest)
      simp only [List.length_append, List.length_map, List.length_cons] at bound
      omega
    simp only [List.forall_mem_cons] at small
    simp only [List.map_cons, List.map_nil, List.cons_append, List.nil_append] at wide ⊢
    simp only [readHex, if_neg wide, hexDigitValue?_digitChar small.1,
      hexDigitValue?_digitChar small.2.1, hexDigitValue?_digitChar small.2.2.1,
      hexDigitValue?_digitChar small.2.2.2.1]

theorem readEscape_control {c : Char} (control : c.toNat < 0x20) (rest : Input) :
    readEscape (['u', '0', '0', digitChar (c.toNat / 16), digitChar (c.toNat % 16)].map .char ++
      rest) = .ok (c, rest) := by
  have zero : digitChar 0 = '0' := by decide
  have small : ∀ digit ∈ [0, 0, c.toNat / 16, c.toNat % 16], digit < 16 := by
    simp
    omega
  have code := readHex_digits rfl small rest
  have value : numeral 16 [0, 0, c.toNat / 16, c.toNat % 16] = c.toNat := by
    simp only [numeral, List.foldl_cons, List.foldl_nil]
    omega
  have single : isLowSurrogate c.toNat = false ∧ isHighSurrogate c.toNat = false := by
    simp [isLowSurrogate, isHighSurrogate]
    omega
  rw [value] at code
  simp only [List.map_cons, List.map_nil, zero, List.cons_append, List.nil_append] at code ⊢
  simp [readEscape, code, single, Char.ofNat_toNat]

theorem readString_escape {done : List Char} {c : Char} {rest after : Input}
    (escape : readEscape rest = .ok (c, after)) :
    readString none done (.char '\\' :: rest) = readString none (c :: done) after := by
  rw [readString]
  split
  next failed => simp [escape] at failed
  next other _ found =>
    rw [escape, Except.ok.injEq, Prod.mk.injEq] at found
    rw [found.1, found.2]
    rfl

theorem readString_plain {done : List Char} {c : Char} (quote : c ≠ '"') (slash : c ≠ '\\')
    (large : ¬ c.toNat < 0x20) (rest : Input) :
    readString none done (.char c :: rest) = readString none (c :: done) rest := by
  rw [readString]
  · rw [if_neg large]
    rfl
  · simpa using quote
  · simpa using slash

theorem readString_escapedChar (done : List Char) (c : Char) (rest : Input) :
    readString none done ((escapedChar c).map .char ++ rest) = readString none (c :: done) rest := by
  unfold escapedChar
  iterate 7
    split
    next same =>
      rw [same]
      exact readString_escape rfl
  split
  next control => exact readString_escape (readEscape_control control rest)
  next large => exact readString_plain ‹_› ‹_› large rest

theorem readString_flatMap (text : List Char) (done : List Char) (rest : Input) :
    readString none done ((text.flatMap escapedChar ++ ['"']).map .char ++ rest) =
      .ok (.ofList (done.reverse ++ text), rest) := by
  induction text generalizing done with
  | nil => simp [readString]
  | cons c text ih =>
    rw [List.flatMap_cons, List.append_assoc, List.map_append, List.append_assoc,
      readString_escapedChar, ih]
    simp

theorem readString_written (text : String) (rest : Input) :
    readString none [] ((text.toList.flatMap escapedChar ++ ['"']).map .char ++ rest) =
      .ok (text, rest) := by
  rw [readString_flatMap, List.reverse_nil, List.nil_append, String.ofList_toList]

def extendsNumber : Symbol → Bool
  | .char c => isDigit c || c == '.' || c == 'e' || c == 'E'
  | .stray _ => false

def EndsNumber (rest : Input) : Prop := ∀ symbol ∈ rest.head?, extendsNumber symbol = false

theorem endsNumber_cons {c : Char} (other : extendsNumber (.char c) = false) (rest : Input) :
    EndsNumber (.char c :: rest) := by
  simpa [EndsNumber] using other

theorem takeDigits_stop {rest : Input} (ends : EndsNumber rest) (done : List Nat) :
    takeDigits done rest = (done.reverse, rest) := by
  cases rest with
  | nil => rfl
  | cons symbol rest =>
    cases symbol with
    | stray _ => rfl
    | char c =>
      have other := ends (.char c) rfl
      have none : digitValue? c = none := by
        simp only [extendsNumber, Bool.or_eq_false_iff] at other
        simpa [isDigit] using other.1.1.1
      rw [takeDigits, none]

theorem takeDigits_append {digits : List Nat} (small : ∀ digit ∈ digits, digit < 10)
    {rest : Input} (ends : EndsNumber rest) (done : List Nat) :
    takeDigits done ((digits.map digitChar).map .char ++ rest) = (done.reverse ++ digits, rest) := by
  induction digits generalizing done with
  | nil => simpa using takeDigits_stop ends done
  | cons digit digits ih =>
    have here := digitValue?_digitChar (small digit List.mem_cons_self)
    have behind := ih (fun digit member => small digit (List.mem_cons_of_mem _ member))
      (digit :: done)
    simp only [List.map_cons, List.cons_append, takeDigits, here, behind]
    simp

theorem le_foldl_digits (value : Nat) (digits : List Nat) :
    value ≤ digits.foldl (fun value digit => value * 10 + digit) value := by
  induction digits generalizing value with
  | nil => exact Nat.le_refl value
  | cons digit digits ih => exact Nat.le_trans (by omega) (ih (value * 10 + digit))

theorem absorb_all {limit value : Nat} {digits : List Nat}
    (bound : digits.foldl (fun value digit => value * 10 + digit) value ≤ limit) :
    absorb limit value digits =
      (digits.foldl (fun value digit => value * 10 + digit) value, []) := by
  induction digits generalizing value with
  | nil => rfl
  | cons digit digits ih =>
    have fits : value * 10 + digit ≤ limit := Nat.le_trans (le_foldl_digits _ digits) bound
    rw [absorb, if_pos fits, ih bound, List.foldl_cons]

theorem readNumber_decimal (negative : Bool) {value : Nat} (small : value < 0x10000000000000000) {rest : Input}
    (ends : EndsNumber rest) :
    readNumber negative ((decimal value).map .char ++ rest) = finishInteger negative value rest := by
  have digits : takeDigits [] ((decimal value).map .char ++ rest) = (decimalDigits value, rest) := by
    rw [decimal_eq_map, takeDigits_append (fun _ => lt_of_mem_decimalDigits) ends]
    rfl
  have absorbed : absorb largestSignificand 0 (decimalDigits value) = (value, []) := by
    have bound : numeral 10 (decimalDigits value) ≤ largestSignificand := by
      rw [numeral_decimalDigits, largestSignificand]
      omega
    have whole := absorb_all bound
    rwa [← numeral, numeral_decimalDigits] at whole
  rw [readNumber, digits]
  split
  next none => exact absurd (congrArg Prod.fst none) (decimalDigits_ne_nil value)
  next none => exact absurd (congrArg Prod.fst none) (decimalDigits_ne_nil value)
  next led =>
    have alone := zero_leads_decimalDigits (congrArg Prod.fst led)
    contradiction
  next found _ _ _ same =>
    rw [Prod.mk.injEq] at same
    obtain ⟨rfl, rfl⟩ := same
    simp only [absorbed]
    -- Neither a point nor an exponent follows.
    split <;> simp_all [EndsNumber, extendsNumber]

theorem finishInteger_natAbs (n : Integer) (rest : Input) :
    finishInteger (decide (n.val < 0)) n.val.natAbs rest = .ok (.integer n, rest) := by
  have exact : (if decide (n.val < 0) then -(n.val.natAbs : Int) else n.val.natAbs) = n.val := by
    split <;> grind
  have whole := Integer.ofInt?_of_fits ⟨n.lower, n.upper⟩
  have signed : ¬ (decide (n.val < 0) = true ∧ n.val.natAbs = 0) := by
    rw [decide_eq_true_iff]
    omega
  simp only [finishInteger, exact, whole, if_neg signed]

end OrdersContract.Json
