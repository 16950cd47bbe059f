import Mathlib.Tactic.SplitIfs
import OrdersContract.Document.Path
import OrdersContract.Exchange.Terms
import OrdersContract.Json.Fault
import OrdersContract.Proofs.AsciiTexts
import OrdersContract.Proofs.Decimals
import OrdersContract.Rule.Basic

set_option autoImplicit false

namespace OrdersContract

open Json

namespace Text

def Unbroken (chars : List Char) : Prop := ∀ c ∈ chars, c ≠ '\n' ∧ c ≠ '\r'

instance (chars : List Char) : Decidable (Unbroken chars) := List.decidableBAll _ chars

@[simp] theorem unbroken_nil : Unbroken [] := by simp [Unbroken]

@[simp] theorem unbroken_cons_iff {c : Char} {rest : List Char} :
    Unbroken (c :: rest) ↔ (c ≠ '\n' ∧ c ≠ '\r') ∧ Unbroken rest := by simp [Unbroken]

@[simp] theorem unbroken_append_iff {front back : List Char} :
    Unbroken (front ++ back) ↔ Unbroken front ∧ Unbroken back := by
  simp only [Unbroken, List.forall_mem_append]

theorem unbroken_ite {p : Prop} [Decidable p] {chars others : List Char} (first : Unbroken chars)
    (second : Unbroken others) : Unbroken (if p then chars else others) := by
  split
  next => exact first
  next => exact second

theorem unbroken_flatMap {α : Type} {items : List α} {chars : α → List Char}
    (each : ∀ item ∈ items, Unbroken (chars item)) : Unbroken (items.flatMap chars) :=
  List.forall_mem_flatMap.mpr each

theorem Unbroken.of_subset {chars others : List Char} (whole : Unbroken chars)
    (within : others ⊆ chars) : Unbroken others :=
  fun c member => whole c (within member)

theorem unbroken_replicate {c : Char} (other : c ≠ '\n' ∧ c ≠ '\r') (count : Nat) :
    Unbroken (List.replicate count c) := by
  intro d member
  rwa [List.eq_of_mem_replicate member]

theorem unbroken_digitChar {digit : Nat} (small : digit < 16) : Unbroken [digitChar digit] := by
  have all : ∀ digit : Fin 16, Unbroken [digitChar digit] := by decide
  exact all ⟨digit, small⟩

theorem unbroken_digitsBefore {base : Nat} (small : base ≤ 16) (value : Nat) {rest : List Char}
    (whole : Unbroken rest) : Unbroken (digitsBefore base value rest) := by
  induction value, rest using digitsBefore.induct base with
  | case1 value rest degenerate => rwa [digitsBefore, if_pos degenerate]
  | case2 value rest positional last =>
    rw [digitsBefore, if_neg positional, if_pos last, ← List.singleton_append, unbroken_append_iff]
    exact ⟨unbroken_digitChar (by omega), whole⟩
  | case3 value rest positional more ih =>
    rw [digitsBefore, if_neg positional, if_neg more]
    apply ih
    rw [← List.singleton_append, unbroken_append_iff]
    have digit : value % base < base := Nat.mod_lt value (by omega)
    exact ⟨unbroken_digitChar (by omega), whole⟩

@[simp] theorem unbroken_decimal (value : Nat) : Unbroken (decimal value) :=
  unbroken_digitsBefore (by decide) value unbroken_nil

def OneLine (text : String) : Prop := Unbroken text.toList

instance (text : String) : Decidable (OneLine text) :=
  decidable_of_iff (Unbroken (charsOf text)) (by rw [OneLine, charsOf_eq])

@[simp] theorem oneLine_append_iff {front back : String} :
    OneLine (front ++ back) ↔ OneLine front ∧ OneLine back := by
  simp [OneLine]

@[simp] theorem oneLine_decimalText (value : Nat) : OneLine (decimalText value) := by
  simp [OneLine, decimalText]

theorem oneLine_join {texts : List String} (each : ∀ text ∈ texts, OneLine text) :
    OneLine (String.join texts) := by
  rw [OneLine, String.toList_join]
  exact unbroken_flatMap each

theorem oneLine_intercalate {separator : String} (own : OneLine separator) {texts : List String}
    (each : ∀ text ∈ texts, OneLine text) : OneLine (separator.intercalate texts) := by
  rw [OneLine, String.toList_intercalate]
  generalize lines : texts.map String.toList = parts
  have whole : ∀ part ∈ parts, Unbroken part := by
    rw [← lines]
    exact List.forall_mem_map.mpr each
  clear lines
  induction parts with
  | nil => simp [List.intercalate]
  | cons part rest ih =>
    have later := ih fun part member => whole part (List.mem_cons_of_mem _ member)
    have first := whole part List.mem_cons_self
    cases rest with
    | nil => simpa using first
    | cons next others =>
      rw [List.intercalate_cons_cons, unbroken_append_iff, unbroken_append_iff]
      exact ⟨⟨first, own⟩, later⟩

theorem oneLine_twoPlaces (num den : Nat) : OneLine (twoPlaces num den) := by
  simp [OneLine, twoPlaces, paddedDecimal, unbroken_replicate]

theorem oneLine_quotedChar (c : Char) : OneLine (quotedChar c) := by
  unfold quotedChar
  split_ifs with quote backslash tab feed back zero
  · decide
  · decide
  · decide
  · decide
  · decide
  · decide
  · simp [OneLine, feed, back]
  · have digits : OneLine (hexText c.toNat) := by
      rw [OneLine, hexText, String.toList_ofList]
      exact unbroken_digitsBefore (by decide) _ unbroken_nil
    have brackets : OneLine "\\u\x7b" ∧ OneLine "\x7d" := by decide
    simp [digits, brackets]

theorem oneLine_quoted (text : String) : OneLine (quoted text) := by
  have quote : OneLine "\"" := by decide
  have inner : OneLine (String.join (text.toList.map quotedChar)) :=
    oneLine_join (List.forall_mem_map.mpr fun c _ => oneLine_quotedChar c)
  simp [quoted, quote, inner]

end Text

open Text

namespace Number.Double

theorem unbroken_positional {digits : List Char} (whole : Unbroken digits) (exponent : Int) :
    Unbroken (positional digits exponent) := by
  have front (count : Nat) : Unbroken (digits.take count) := whole.of_subset (List.take_subset ..)
  have back (count : Nat) : Unbroken (digits.drop count) := whole.of_subset (List.drop_subset ..)
  have zeros (count : Nat) : Unbroken (List.replicate count '0') := unbroken_replicate (by decide) _
  unfold positional
  split
  next => simp [whole, zeros]
  next =>
    dsimp only
    split
    next => simp [front, back]
    next => simp [whole, zeros]

theorem unbroken_scientific {digits : List Char} (whole : Unbroken digits) (leading : Int) :
    Unbroken (scientific digits leading) := by
  have front : Unbroken (digits.take 1) := whole.of_subset (List.take_subset ..)
  have back : Unbroken (digits.drop 1) := whole.of_subset (List.drop_subset ..)
  have fraction : Unbroken (if (digits.drop 1).isEmpty then [] else '.' :: digits.drop 1) :=
    unbroken_ite unbroken_nil (unbroken_cons_iff.mpr ⟨by decide, back⟩)
  have sign : Unbroken [if leading < 0 then '-' else '+'] := by
    split <;> decide
  rw [unbroken_cons_iff] at sign
  simp only [scientific, unbroken_append_iff, unbroken_cons_iff]
  exact ⟨⟨front, fraction⟩, by decide, sign.1, unbroken_decimal _⟩

theorem unbroken_chars (d : Double) : Unbroken d.chars := by
  have digits := unbroken_decimal (shortest d.magnitude).digits
  rw [chars]
  have body (p : Prop) [Decidable p] (exponent leading : Int) :
      Unbroken (if p then positional (decimal (shortest d.magnitude).digits) exponent
        else scientific (decimal (shortest d.magnitude).digits) leading) :=
    unbroken_ite (unbroken_positional digits _) (unbroken_scientific digits _)
  exact unbroken_ite (unbroken_cons_iff.mpr ⟨by decide, body _ _ _⟩) (body _ _ _)

end Number.Double

namespace Json

theorem unbroken_escapedChar (c : Char) : Unbroken (escapedChar c) := by
  unfold escapedChar
  split_ifs with quote backslash backspace formFeed feed back tab control
  · decide
  · decide
  · decide
  · decide
  · decide
  · decide
  · decide
  · have high := unbroken_digitChar (show c.toNat / 16 < 16 by omega)
    have low := unbroken_digitChar (show c.toNat % 16 < 16 by omega)
    rw [unbroken_cons_iff] at high low
    simp only [unbroken_cons_iff]
    exact ⟨by decide, by decide, by decide, by decide, high.1, low⟩
  · simp [feed, back]

theorem unbroken_quotedChars (text : String) : Unbroken (quotedChars text) := by
  have inner : Unbroken (text.toList.flatMap escapedChar) :=
    unbroken_flatMap fun c _ => unbroken_escapedChar c
  simp [quotedChars, inner]

theorem unbroken_separated {parts : List (List Char)} (each : ∀ part ∈ parts, Unbroken part) :
    Unbroken (separated [','] parts) := by
  cases parts with
  | nil => exact unbroken_nil
  | cons first rest =>
    have others : Unbroken (rest.flatMap ([','] ++ ·)) := by
      apply unbroken_flatMap
      intro part member
      simpa using each part (List.mem_cons_of_mem _ member)
    rw [separated, unbroken_append_iff]
    exact ⟨each first List.mem_cons_self, others⟩

theorem Numeric.unbroken_chars (n : Numeric) : Unbroken n.chars := by
  cases n with
  | integer n => by_cases negative : n.val < 0 <;> simp [Numeric.chars, Integer.chars, negative]
  | double d => exact d.unbroken_chars

theorem Value.unbroken_chars (value : Value) : Unbroken value.chars := by
  induction value with
  | null => decide
  | bool b => cases b <;> decide
  | number n => exact n.unbroken_chars
  | string s => exact unbroken_quotedChars s
  | array items ih =>
    have inner : Unbroken (separated [','] (charsOfItems items)) := by
      apply unbroken_separated
      rw [charsOfItems_eq_map]
      exact List.forall_mem_map.mpr ih
    simp [chars, inner]
  | object members ih =>
    have inner : Unbroken (separated [','] (charsOfMembers members)) := by
      apply unbroken_separated
      rw [charsOfMembers_eq_map]
      refine List.forall_mem_map.mpr fun member listed => ?_
      simp [unbroken_quotedChars, ih member listed]
    simp [chars, inner]

theorem Value.oneLine_text (value : Value) : OneLine value.text := by
  rw [OneLine, Value.text, String.toList_ofList]
  exact value.unbroken_chars

theorem ReadError.oneLine_message (error : ReadError) : OneLine error.message := by
  have cause : OneLine error.cause.message := by
    cases error.cause <;> decide
  have place : OneLine " at line " ∧ OneLine " column " := by decide
  simp [message, cause, place]

end Json

namespace Field

theorem oneLine_shown (field : Field) : OneLine field.shown := by
  cases field with
  | missing => decide
  | present value => exact value.oneLine_text

theorem oneLine_kindName (field : Field) : OneLine field.kindName := by
  cases field with
  | missing => decide
  | present value =>
    have names : ∀ name ∈ ["null", "boolean", "number", "string", "array", "object"],
        OneLine name := by decide
    apply names
    cases value <;> simp [kindName]

end Field

theorem Path.oneLine_foldl_extend {path : Path} (names : ∀ name, .field name ∈ path → OneLine name)
    {text : String} (whole : OneLine text) : OneLine (path.foldl extend text) := by
  induction path generalizing text with
  | nil => exact whole
  | cons step rest ih =>
    apply ih
    · exact fun name member => names name (List.mem_cons_of_mem _ member)
    · have marks : OneLine "." ∧ OneLine "[" ∧ OneLine "]" := by decide
      cases step with
      | field name =>
        have own := names name List.mem_cons_self
        simp only [extend]
        split
        next => exact own
        next => simp [whole, marks, own]
      | index i => simp [extend, whole, marks]

theorem Path.oneLine_text {path : Path} (names : ∀ name, .field name ∈ path → OneLine name) :
    OneLine path.text :=
  oneLine_foldl_extend names (by decide)

theorem unbroken_putPlace {place template : List Char} (own : Unbroken place)
    (whole : Unbroken template) : Unbroken (putPlace place template) := by
  induction template using putPlace.induct with
  | case1 rest ih => simp_all [putPlace]
  | case2 c rest unmarked ih =>
    rw [putPlace]
    · simp_all
    · exact unmarked
  | case3 => exact unbroken_nil

end OrdersContract
