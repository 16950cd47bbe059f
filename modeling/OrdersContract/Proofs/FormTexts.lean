import OrdersContract.Address.Query
import OrdersContract.Text.Pieces

set_option autoImplicit false

namespace OrdersContract

open Text

namespace Text

theorem pieces_intercalate {separator : Char} {items : List (List Char)} (filled : items ≠ [])
    (absent : ∀ item ∈ items, separator ∉ item) :
    pieces separator ([separator].intercalate items) = items := by
  induction items with
  | nil => contradiction
  | cons item rest ih =>
    have own := pieces_of_not_mem (absent item List.mem_cons_self)
    cases rest with
    | nil => simpa using own
    | cons next others =>
      have behind := ih (by simp) fun item member => absent item (List.mem_cons_of_mem _ member)
      rw [List.intercalate_cons_cons, List.append_assoc, List.singleton_append, pieces_append, own,
        behind, List.singleton_append]

end Text

namespace Address

theorem hexDigitValue?_upperHexDigit {value : Nat} (small : value < 16) :
    hexDigitValue? (upperHexDigit value) = some value := by
  have all : ∀ value : Fin 16, hexDigitValue? (upperHexDigit value) = some value.val := by decide
  exact all ⟨value, small⟩

theorem decode_escapedByte (byte : UInt8) (rest : List Char) :
    decode (escapedByte byte ++ rest) = byte :: decode rest := by
  have bound := byte.toNat_lt
  have high := hexDigitValue?_upperHexDigit (show byte.toNat / 16 < 16 by omega)
  have low := hexDigitValue?_upperHexDigit (Nat.mod_lt byte.toNat (show 0 < 16 by decide))
  have whole : byte.toNat / 16 * 16 + byte.toNat % 16 = byte.toNat := by omega
  simp [escapedByte, decode, high, low, whole]

theorem decode_escapedBytes (bytes : List UInt8) (rest : List Char) :
    decode (bytes.flatMap escapedByte ++ rest) = bytes ++ decode rest := by
  induction bytes with
  | nil => rfl
  | cons byte bytes ih =>
    rw [List.flatMap_cons, List.append_assoc, decode_escapedByte, ih, List.cons_append]

theorem decode_cons {c : Char} (plain : c ≠ '%') (rest : List Char) :
    decode (c :: rest) = Utf8.encodeChar c ++ decode rest := by
  rw [decode]
  rintro _ _ _ rfl
  exact absurd rfl plain

theorem text?_encode (chars : List Char) : text? (Utf8.encode chars) = some chars := by
  rw [text?, Utf8.decode_encode]
  induction chars with
  | nil => rfl
  | cons c rest ih =>
    rw [List.map_cons, List.mapM_cons, ih]
    rfl

end Address

namespace Query

open Address

def spaced (c : Char) : Char := if c = '+' then ' ' else c

def component? (chars : List Char) : Option String :=
  (text? (decode (chars.map spaced))).map .ofList

def pair? (piece : List Char) : Option (String × String) := do
  let (name, value) := (cut? '=' piece).getD (piece, [])
  let name ← component? name
  let value ← component? value
  some (name, value)

/-- The pairs that a text names, read as a form. Between two `&` there may be nothing. -/
def ofText? (text : String) : Option Query :=
  ((pieces '&' text.toList).filter (!·.isEmpty)).mapM pair?

example : ofText? "a=1&&b=+%2B=&c" = some [("a", "1"), ("b", " +="), ("c", "")] := by
  decide +kernel

def componentMarks : List Char := ['*', '-', '.', '_', '+', '%']

def IsComponentChar (c : Char) : Prop := c.isAlphanum = true ∨ c ∈ componentMarks

instance (c : Char) : Decidable (IsComponentChar c) := inferInstanceAs (Decidable (_ ∨ _))

def charText (c : Char) : List Char :=
  if staysPlain c then [c]
  else if c = ' ' then ['+']
  else (Utf8.encodeChar c).flatMap escapedByte

theorem componentChars_eq (text : String) :
    componentChars text = text.toList.flatMap charText := rfl

theorem isAlphanum_iff (c : Char) : c.isAlphanum = true ↔
    ('A' ≤ c ∧ c ≤ 'Z' ∨ 'a' ≤ c ∧ c ≤ 'z') ∨ '0' ≤ c ∧ c ≤ '9' := by
  have ranges : c.isAlphanum = ((decide ('A' ≤ c ∧ c ≤ 'Z') ||
      decide ('a' ≤ c) && decide (c ≤ 'z')) || decide ('0' ≤ c) && decide (c ≤ '9')) := rfl
  simp only [ranges, Bool.or_eq_true, Bool.and_eq_true, decide_eq_true_eq]

theorem isComponentChar_of_staysPlain {c : Char} (plain : staysPlain c = true) :
    IsComponentChar c := by
  rw [staysPlain, Bool.or_eq_true, Bool.or_eq_true] at plain
  rcases plain with (letter | digit) | mark
  · left
    rw [isAlphanum_iff]
    exact .inl (by simpa [isLetter, or_comm] using letter)
  · left
    rw [isAlphanum_iff]
    exact .inr (by simpa [isDigit, digitValue?] using digit)
  · right
    simp at mark
    rcases mark with rfl | rfl | rfl | rfl <;> decide

theorem isComponentChar_upperHexDigit {value : Nat} (small : value < 16) :
    IsComponentChar (upperHexDigit value) := by
  have all : ∀ value : Fin 16, IsComponentChar (upperHexDigit value) := by decide
  exact all ⟨value, small⟩

theorem isComponentChar_escapedByte {byte : UInt8} : ∀ c ∈ escapedByte byte, IsComponentChar c := by
  have bound := byte.toNat_lt
  simp only [escapedByte, List.forall_mem_cons]
  exact ⟨by decide, isComponentChar_upperHexDigit (by omega),
    isComponentChar_upperHexDigit (Nat.mod_lt _ (by decide)), List.forall_mem_nil _⟩

theorem isComponentChar_charText {c d : Char} (member : d ∈ charText c) : IsComponentChar d := by
  simp only [charText] at member
  split at member
  next plain =>
    obtain rfl := List.mem_singleton.mp member
    exact isComponentChar_of_staysPlain plain
  next =>
    split at member
    next =>
      obtain rfl := List.mem_singleton.mp member
      decide
    next =>
      obtain ⟨byte, _, escaped⟩ := List.mem_flatMap.mp member
      exact isComponentChar_escapedByte d escaped

theorem isComponentChar_componentChars {text : String} {c : Char}
    (member : c ∈ componentChars text) : IsComponentChar c := by
  rw [componentChars_eq] at member
  obtain ⟨_, _, written⟩ := List.mem_flatMap.mp member
  exact isComponentChar_charText written

theorem map_spaced_escapedByte (byte : UInt8) :
    (escapedByte byte).map spaced = escapedByte byte := by
  have digit {value : Nat} (small : value < 16) :
      spaced (upperHexDigit value) = upperHexDigit value := by
    have all : ∀ value : Fin 16, spaced (upperHexDigit value) = upperHexDigit value := by decide
    exact all ⟨value, small⟩
  have bound := byte.toNat_lt
  have mark : spaced '%' = '%' := rfl
  simp [escapedByte, mark, digit (show byte.toNat / 16 < 16 by omega),
    digit (Nat.mod_lt byte.toNat (show 0 < 16 by decide))]

theorem decode_charText (c : Char) (rest : List Char) :
    decode ((charText c).map spaced ++ rest) = Utf8.encodeChar c ++ decode rest := by
  unfold charText
  split
  next plain =>
    have apart : c ≠ '+' ∧ c ≠ '%' := by
      constructor <;> rintro rfl <;> exact absurd plain (by decide)
    rw [List.map_singleton, spaced, if_neg apart.1, List.singleton_append, decode_cons apart.2]
  next =>
    split
    next space =>
      subst space
      exact decode_cons (by decide) rest
    next =>
      have same : ((Utf8.encodeChar c).flatMap escapedByte).map spaced =
          (Utf8.encodeChar c).flatMap escapedByte := by
        simp [List.map_flatMap, map_spaced_escapedByte]
      rw [same, decode_escapedBytes]

theorem decode_componentChars (text : String) :
    decode ((componentChars text).map spaced) = Utf8.encode text.toList := by
  rw [componentChars_eq]
  induction text.toList with
  | nil => rfl
  | cons c rest ih => rw [List.flatMap_cons, List.map_append, decode_charText, ih]; rfl

theorem component?_componentChars (text : String) :
    component? (componentChars text) = some text := by
  rw [component?, decode_componentChars, text?_encode, Option.map_some, String.ofList_toList]

theorem pair?_pairChars (pair : String × String) : pair? (pairChars pair) = some pair := by
  have unequal : '=' ∉ componentChars pair.1 := fun member =>
    absurd (isComponentChar_componentChars member) (by decide)
  have cut : cut? '=' (pairChars pair) = some (componentChars pair.1, componentChars pair.2) :=
    cut?_append unequal _
  simp [pair?, cut, component?_componentChars]

theorem mem_pairChars {pair : String × String} {c : Char} (member : c ∈ pairChars pair) :
    IsComponentChar c ∨ c = '=' := by
  rcases List.mem_append.mp member with name | value
  · exact .inl (isComponentChar_componentChars name)
  · rcases List.mem_cons.mp value with rfl | value
    · exact .inr rfl
    · exact .inl (isComponentChar_componentChars value)

theorem ofText?_chars (query : Query) : ofText? (.ofList query.chars) = some query := by
  cases query with
  | nil => decide +kernel
  | cons pair rest =>
    have unmarked : ∀ piece ∈ (pair :: rest).map pairChars, '&' ∉ piece := by
      intro piece listed marked
      obtain ⟨_, _, rfl⟩ := List.mem_map.mp listed
      exact absurd (mem_pairChars marked) (by decide)
    have filled : ∀ piece ∈ (pair :: rest).map pairChars, (!piece.isEmpty) = true := by
      intro piece listed
      obtain ⟨_, _, rfl⟩ := List.mem_map.mp listed
      simp [pairChars]
    rw [ofText?, String.toList_ofList, chars, pieces_intercalate (by simp) unmarked,
      List.filter_eq_self.mpr filled]
    generalize pair :: rest = query
    clear unmarked filled
    induction query with
    | nil => rfl
    | cons pair rest ih => rw [List.map_cons, List.mapM_cons, pair?_pairChars, ih]; rfl

theorem mem_chars {query : Query} {c : Char} (member : c ∈ query.chars) :
    IsComponentChar c ∨ c = '=' ∨ c = '&' := by
  rw [chars] at member
  induction query with
  | nil => simp at member
  | cons pair rest ih =>
    cases rest with
    | nil => exact (mem_pairChars (by simpa using member)).imp_right .inl
    | cons next others =>
      rw [List.map_cons, List.map_cons, List.intercalate_cons_cons, List.mem_append,
        List.mem_append, ← List.map_cons] at member
      rcases member with (own | mark) | behind
      · exact (mem_pairChars own).imp_right .inl
      · exact .inr (.inr (List.mem_singleton.mp mark))
      · exact ih behind

end Query

end OrdersContract
