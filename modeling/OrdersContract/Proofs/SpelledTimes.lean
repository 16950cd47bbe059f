import Mathlib.Data.List.TakeWhile
import OrdersContract.Document.Timestamp
import OrdersContract.Proofs.Decimals
import OrdersContract.Text.Pieces

set_option autoImplicit false

namespace OrdersContract.Timestamp

open Text

structure Names (digits : List Char) (value : Nat) : Prop where
  filled : digits ≠ []
  each : ∀ c ∈ digits, isDigit c = true
  value_eq : numeral 10 (digits.map fun c => c.toNat - '0'.toNat) = value

theorem names_iff {digits : List Char} {value : Nat} :
    Names digits value ↔ readDecimal? digits = some value := by
  rw [readDecimal?_eq_some_iff]
  exact ⟨fun names => ⟨names.filled, names.each, names.value_eq⟩,
    fun ⟨filled, each, value⟩ => ⟨filled, each, value⟩⟩

def Wide (width : Nat) (chars : List Char) (value : Nat) : Prop :=
  chars.length = width ∧ Names chars value

/-- A number in at most so many digits, with white space before them. -/
def Loose (most : Nat) (chars : List Char) (value : Nat) : Prop :=
  ∃ blanks digits, chars = blanks ++ digits ∧ (∀ c ∈ blanks, isBlank c = true) ∧
    digits.length ≤ most ∧ Names digits value

def WideYear (chars : List Char) (year : Int) : Prop :=
  ∃ value : Nat, Wide 4 chars value ∧ year = value

/-- A year in at most four digits, or a sign and any number of them, with white space before. -/
def LooseYear (chars : List Char) (year : Int) : Prop :=
  ∃ (blanks sign digits : List Char) (value : Nat), chars = blanks ++ sign ++ digits ∧
    (∀ c ∈ blanks, isBlank c = true) ∧ Names digits value ∧
    (sign = [] ∧ digits.length ≤ 4 ∧ year = value ∨ sign = ['+'] ∧ year = value ∨
      sign = ['-'] ∧ year = -value)

theorem Wide.loose {width value : Nat} {chars : List Char} (wide : Wide width chars value) :
    Loose width chars value :=
  ⟨[], chars, rfl, by simp, wide.1.le, wide.2⟩

theorem WideYear.loose {chars : List Char} {year : Int} (wide : WideYear chars year) :
    LooseYear chars year := by
  obtain ⟨value, ⟨width, names⟩, rfl⟩ := wide
  exact ⟨[], [], chars, value, rfl, by simp, names, .inl ⟨rfl, width.le, rfl⟩⟩

def IsFraction (chars : List Char) : Prop :=
  chars = [] ∨ ∃ digits, chars = '.' :: digits ∧ digits ≠ [] ∧ ∀ c ∈ digits, isDigit c = true

structure Parts where
  year : List Char
  month : List Char
  day : List Char
  hour : List Char
  minute : List Char
  second : List Char
  fraction : List Char

def Parts.chars (separator : Char) (parts : Parts) : List Char :=
  parts.year ++ '-' :: (parts.month ++ '-' :: (parts.day ++ separator :: (parts.hour ++
    ':' :: (parts.minute ++ ':' :: (parts.second ++ parts.fraction)))))

/-- The parts name a date-time, each year and each other number in a form of its own. -/
structure Parts.Spell (year : List Char → Int → Prop) (pair : List Char → Nat → Prop)
    (parts : Parts) (t : Timestamp) : Prop where
  year : year parts.year t.year
  month : pair parts.month t.month
  day : pair parts.day t.day
  hour : pair parts.hour t.hour
  minute : pair parts.minute t.minute
  second : pair parts.second t.second
  fraction : IsFraction parts.fraction

abbrev Parts.SpellWide : Parts → Timestamp → Prop := Parts.Spell WideYear (Wide 2)

abbrev Parts.SpellLoose : Parts → Timestamp → Prop := Parts.Spell LooseYear (Loose 2)

theorem Parts.Spell.loose {parts : Parts} {t : Timestamp} (wide : parts.SpellWide t) :
    parts.SpellLoose t where
  year := wide.year.loose
  month := wide.month.loose
  day := wide.day.loose
  hour := wide.hour.loose
  minute := wide.minute.loose
  second := wide.second.loose
  fraction := wide.fraction

inductive Zone (signs : List Char) : List Char → Option (Nat × Nat) → Prop where
  | utc {mark : Char} (known : mark ∈ ['Z', 'z']) : Zone signs [mark] none
  | offset {sign : Char} {hours minutes : List Char} {h m : Nat} (known : sign ∈ signs)
      (inHours : Wide 2 hours h) (inMinutes : Wide 2 minutes m) :
      Zone signs (sign :: (hours ++ ':' :: minutes)) (some (h, m))

def EndsNumber (rest : List Char) : Prop := ∀ c ∈ rest.head?, isDigit c = false

theorem wide?_eq_some_iff {width value : Nat} {chars rest : List Char} :
    wide? width chars = some (value, rest) ↔
      ∃ digits, chars = digits ++ rest ∧ Wide width digits value := by
  simp only [wide?, Option.bind_eq_some_iff, Option.ite_none_right_eq_some, Option.some.injEq,
    Prod.mk.injEq, ← names_iff]
  constructor
  · rintro ⟨_, names, long, rfl, rfl⟩
    exact ⟨chars.take width, (List.take_append_drop ..).symm, by simp [long], names⟩
  · rintro ⟨digits, rfl, length, names⟩
    refine ⟨value, ?_, ?_, rfl, List.drop_left' length⟩
    · rwa [List.take_left' length]
    · rw [List.length_append]
      omega

theorem number?_append {most value : Nat} {digits rest : List Char} (names : Names digits value)
    (short : digits.length ≤ most) (ends : EndsNumber rest) :
    number? most (digits ++ rest) = some (value, rest) := by
  have stop : EndsNumber (rest.take (most - digits.length)) := by
    intro c head
    rw [List.head?_take] at head
    split at head
    next => simp at head
    next => exact ends c head
  have front : ((digits ++ rest).take most).takeWhile isDigit = digits := by
    rw [List.take_append, List.take_of_length_le short, takeWhile_append_of_stop _ stop,
      List.takeWhile_eq_self_iff.mpr names.each]
  rw [number?]
  simp [front, names_iff.mp names]

theorem exists_digits_of_number? {most value : Nat} {chars rest : List Char}
    (read : number? most chars = some (value, rest)) :
    ∃ digits, chars = digits ++ rest ∧ digits.length ≤ most ∧ Names digits value := by
  simp only [number?, Option.map_eq_some_iff, Prod.mk.injEq, ← names_iff] at read
  obtain ⟨_, names, rfl, rfl⟩ := read
  refine ⟨_, ?_, ?_, names⟩
  · have first : (chars.take most).takeWhile isDigit <+: chars :=
      (List.takeWhile_prefix isDigit).trans (List.take_prefix _ _)
    exact (List.prefix_iff_eq_append.mp first).symm
  · exact (List.takeWhile_prefix isDigit).length_le.trans (List.length_take_le _ _)

theorem skipBlanks_append {blanks rest : List Char} (each : ∀ c ∈ blanks, isBlank c = true)
    (solid : ∀ c ∈ rest.head?, isBlank c = false) : skipBlanks (blanks ++ rest) = rest := by
  rw [skipBlanks, dropWhile_append_of_stop _ solid, List.dropWhile_eq_nil_iff.mpr each,
    List.nil_append]

theorem exists_blanks (chars : List Char) :
    ∃ blanks, chars = blanks ++ skipBlanks chars ∧ ∀ c ∈ blanks, isBlank c = true :=
  ⟨chars.takeWhile isBlank, List.takeWhile_append_dropWhile.symm,
    fun _ member => List.mem_takeWhile_imp member⟩

theorem Names.head {digits : List Char} {value : Nat} (names : Names digits value)
    (rest : List Char) : ∃ c ∈ (digits ++ rest).head?, isDigit c = true := by
  cases digits with
  | nil => exact absurd rfl names.filled
  | cons c others => exact ⟨c, rfl, names.each c List.mem_cons_self⟩

theorem Names.solid {digits : List Char} {value : Nat} (names : Names digits value)
    (rest : List Char) : ∀ c ∈ (digits ++ rest).head?, isBlank c = false := by
  obtain ⟨d, first, digit⟩ := names.head rest
  intro c head
  obtain rfl := Option.some.inj (first.symm.trans head)
  exact isBlank_of_isDigit digit

theorem pair?_append {front rest : List Char} {value : Nat} (loose : Loose 2 front value)
    (ends : EndsNumber rest) : pair? (front ++ rest) = some (value, rest) := by
  obtain ⟨blanks, digits, rfl, each, short, names⟩ := loose
  rw [pair?, List.append_assoc, skipBlanks_append each (names.solid rest)]
  exact number?_append names short ends

theorem exists_loose_of_pair? {chars rest : List Char} {value : Nat}
    (read : pair? chars = some (value, rest)) :
    ∃ front, chars = front ++ rest ∧ Loose 2 front value := by
  obtain ⟨blanks, split, each⟩ := exists_blanks chars
  obtain ⟨digits, behind, short, names⟩ := exists_digits_of_number? read
  refine ⟨blanks ++ digits, ?_, blanks, digits, rfl, each, short, names⟩
  rw [split, behind, List.append_assoc]

theorem year?_append {front rest : List Char} {year : Int} (loose : LooseYear front year)
    (ends : EndsNumber rest) : year? (front ++ rest) = some (year, rest) := by
  obtain ⟨blanks, sign, digits, value, rfl, each, names, form⟩ := loose
  have long : digits.length ≤ (digits ++ rest).length := by simp
  have signed (sign : Char) (solid : isBlank sign = false) :
      skipBlanks (blanks ++ [sign] ++ digits ++ rest) = sign :: (digits ++ rest) := by
    rw [List.append_assoc, List.append_assoc]
    exact skipBlanks_append each (by simpa using solid)
  rcases form with ⟨rfl, short, rfl⟩ | ⟨rfl, rfl⟩ | ⟨rfl, rfl⟩
  · obtain ⟨c, first, digit⟩ := names.head rest
    have bare : skipBlanks (blanks ++ [] ++ digits ++ rest) = digits ++ rest := by
      rw [List.append_nil, List.append_assoc, skipBlanks_append each (names.solid rest)]
    rw [year?, bare]
    -- A digit is no sign.
    split
    next same =>
      rw [same] at first
      obtain rfl := Option.some.inj first
      exact absurd digit (by decide)
    next same =>
      rw [same] at first
      obtain rfl := Option.some.inj first
      exact absurd digit (by decide)
    next => rw [number?_append names short ends, Option.map_some]
  · simp only [year?, signed '+' (by decide), number?_append names long ends, Option.map_some]
  · simp only [year?, signed '-' (by decide), number?_append names long ends, Option.map_some]

theorem exists_digits_of_map_number? (sign : Nat → Int) {most : Nat} {chars rest : List Char}
    {year : Int}
    (read : (number? most chars).map (fun number => (sign number.1, number.2)) =
      some (year, rest)) :
    ∃ digits value, chars = digits ++ rest ∧ digits.length ≤ most ∧ Names digits value ∧
      year = sign value := by
  simp only [Option.map_eq_some_iff, Prod.exists, Prod.mk.injEq] at read
  obtain ⟨value, _, read, rfl, rfl⟩ := read
  obtain ⟨digits, split, short, names⟩ := exists_digits_of_number? read
  exact ⟨digits, value, split, short, names, rfl⟩

theorem exists_loose_of_year? {chars rest : List Char} {year : Int}
    (read : year? chars = some (year, rest)) :
    ∃ front, chars = front ++ rest ∧ LooseYear front year := by
  obtain ⟨blanks, split, each⟩ := exists_blanks chars
  unfold year? at read
  split at read
  next behind signed =>
    obtain ⟨digits, value, rfl, _, names, rfl⟩ := exists_digits_of_map_number? (-·) read
    refine ⟨blanks ++ ['-'] ++ digits, ?_, blanks, ['-'], digits, value, rfl, each, names,
      .inr (.inr ⟨rfl, rfl⟩)⟩
    rw [split, signed]
    simp
  next behind signed =>
    obtain ⟨digits, value, rfl, _, names, rfl⟩ := exists_digits_of_map_number? Nat.cast read
    refine ⟨blanks ++ ['+'] ++ digits, ?_, blanks, ['+'], digits, value, rfl, each, names,
      .inr (.inl ⟨rfl, rfl⟩)⟩
    rw [split, signed]
    simp
  next =>
    obtain ⟨digits, value, unsigned, short, names, rfl⟩ :=
      exists_digits_of_map_number? Nat.cast read
    refine ⟨blanks ++ [] ++ digits, ?_, blanks, [], digits, value, rfl, each, names,
      .inl ⟨rfl, short, rfl⟩⟩
    rw [split, unsigned]
    simp

theorem expect?_eq_some_iff {expected : Char} {chars rest : List Char} :
    expect? expected chars = some rest ↔ chars = expected :: rest := by
  cases chars with
  | nil => simp [expect?]
  | cons c others => by_cases same : c = expected <;> simp [expect?, same]

theorem expect?_cons (expected : Char) (rest : List Char) :
    expect? expected (expected :: rest) = some rest :=
  expect?_eq_some_iff.mpr rfl

def EndsFraction (rest : List Char) : Prop := ∀ c ∈ rest.head?, isDigit c = false ∧ c ≠ '.'

theorem fraction?_append {front rest : List Char} (fraction : IsFraction front)
    (ends : EndsFraction rest) : fraction? (front ++ rest) = some rest := by
  rcases fraction with rfl | ⟨digits, rfl, filled, each⟩
  · cases rest with
    | nil => rfl
    | cons c others =>
      have other := (ends c rfl).2
      rw [List.nil_append, fraction?]
      · exact fun _ _ same => other (List.cons.inj same).1
      · exact fun same => other (List.cons.inj same).1
  · cases digits with
    | nil => exact absurd rfl filled
    | cons d others =>
      rw [List.forall_mem_cons] at each
      have behind : (others ++ rest).dropWhile isDigit = rest := by
        rw [dropWhile_append_of_stop _ fun c head => (ends c head).1,
          List.dropWhile_eq_nil_iff.mpr each.2, List.nil_append]
      simp [fraction?, each.1, behind]

theorem exists_isFraction_of_fraction? {chars rest : List Char}
    (read : fraction? chars = some rest) : ∃ front, chars = front ++ rest ∧ IsFraction front := by
  unfold fraction? at read
  split at read
  next d others =>
    obtain ⟨digit, same⟩ := Option.ite_none_right_eq_some.mp read
    obtain rfl := Option.some.inj same
    refine ⟨'.' :: d :: others.takeWhile isDigit, ?_, .inr ⟨_, rfl, List.cons_ne_nil _ _, ?_⟩⟩
    · simp [List.takeWhile_append_dropWhile]
    · exact List.forall_mem_cons.mpr ⟨digit, fun c member => List.mem_takeWhile_imp member⟩
  next => cases read
  next =>
    obtain rfl := Option.some.inj read
    exact ⟨[], rfl, .inl rfl⟩

def IsSmall (offset : Option (Nat × Nat)) : Prop := ∀ o ∈ offset, o.1 ≤ 23 ∧ o.2 ≤ 59

theorem Zone.endsFraction {zone : List Char} {offset : Option (Nat × Nat)}
    (zoned : Zone offsetSigns zone offset) : EndsFraction zone := by
  have apart : (offsetSigns ++ ['Z', 'z']).all (fun c => !isDigit c && c != '.') = true := by
    decide
  simp only [List.all_eq_true, Bool.and_eq_true, Bool.not_eq_true', bne_iff_ne] at apart
  intro c head
  cases zoned with
  | utc known =>
    obtain rfl := Option.some.inj head
    exact apart _ (List.mem_append_right _ known)
  | offset known =>
    obtain rfl := Option.some.inj head
    exact apart _ (List.mem_append_left _ known)

theorem isOffset_of_zone {zone : List Char} {offset : Option (Nat × Nat)}
    (zoned : Zone offsetSigns zone offset) : isOffset zone = true ↔ IsSmall offset := by
  cases zoned with
  | utc known =>
    have read : ['Z', 'z'].all (fun mark => isOffset [mark]) = true := by decide
    simp [IsSmall, List.all_eq_true.mp read _ known]
  | @offset sign hours minutes h m known inHours inMinutes =>
    have first : wide? 2 (hours ++ ':' :: minutes) = some (h, ':' :: minutes) :=
      wide?_eq_some_iff.mpr ⟨hours, rfl, inHours⟩
    have second : wide? 2 minutes = some (m, []) :=
      wide?_eq_some_iff.mpr ⟨minutes, by simp, inMinutes⟩
    have signed : offsetSigns.contains sign = true := List.contains_iff_mem.mpr known
    unfold isOffset
    split
    next same => simp at same
    next same => simp at same
    next same =>
      obtain ⟨rfl, rfl⟩ := List.cons.inj same
      simp only [first, expect?, second, Option.bind_eq_bind, Option.bind_some, if_true,
        List.isEmpty_nil, signed, Bool.true_and, Bool.and_eq_true, decide_eq_true_eq]
      simp [IsSmall]
    next same => cases same

theorem exists_zone_of_isOffset {zone : List Char} (read : isOffset zone = true) :
    ∃ offset, Zone offsetSigns zone offset ∧ IsSmall offset := by
  suffices zoned : ∃ offset, Zone offsetSigns zone offset by
    obtain ⟨offset, zoned⟩ := zoned
    exact ⟨offset, zoned, (isOffset_of_zone zoned).mp read⟩
  unfold isOffset at read
  split at read
  next => exact ⟨none, .utc (by decide)⟩
  next => exact ⟨none, .utc (by decide)⟩
  next sign rest _ _ =>
    simp only at read
    split at read
    next found =>
      simp only [Option.bind_eq_bind, Option.bind_eq_some_iff, Prod.exists, wide?_eq_some_iff,
        expect?_eq_some_iff, Option.ite_none_right_eq_some, Option.some.injEq, Prod.mk.injEq,
        List.isEmpty_iff] at found
      obtain ⟨_, _, ⟨hours, rfl, inHours⟩, _, rfl, _, _, ⟨minutes, rfl, inMinutes⟩, rfl, rfl,
        rfl⟩ := found
      simp only [Bool.and_eq_true, List.contains_iff_mem] at read
      rw [List.append_nil]
      exact ⟨_, .offset read.1.1 inHours inMinutes⟩
    next => cases read
  next => cases read

theorem endsNumber_cons {c : Char} (other : isDigit c = false) (rest : List Char) :
    EndsNumber (c :: rest) := by
  simpa [EndsNumber] using other

theorem fixed?_append {parts : Parts} {t : Timestamp} {separator : Char} {rest : List Char}
    (wide : parts.SpellWide t) (known : separator ∈ separators) (ends : EndsFraction rest) :
    fixed? (parts.chars separator ++ rest) = some (t, rest) := by
  obtain ⟨year, inYear, named⟩ := wide.year
  have pair {digits : List Char} {value : Nat} (wide : Wide 2 digits value) (rest : List Char) :
      wide? 2 (digits ++ rest) = some (value, rest) := wide?_eq_some_iff.mpr ⟨digits, rfl, wide⟩
  have first (rest : List Char) : wide? 4 (parts.year ++ rest) = some (year, rest) :=
    wide?_eq_some_iff.mpr ⟨parts.year, rfl, inYear⟩
  have separated : separators.contains separator = true := List.contains_iff_mem.mpr known
  simp only [fixed?, Parts.chars, List.append_assoc, List.cons_append, first, pair wide.month,
    pair wide.day, pair wide.hour, pair wide.minute, pair wide.second, expect?_cons, separated,
    fraction?_append wide.fraction ends, Option.bind_eq_bind, Option.bind_some, if_true, ← named]

theorem exists_parts_of_fixed? {chars rest : List Char} {t : Timestamp}
    (read : fixed? chars = some (t, rest)) :
    ∃ parts separator, chars = Parts.chars separator parts ++ rest ∧ separator ∈ separators ∧
      parts.SpellWide t := by
  simp only [fixed?, Option.bind_eq_bind, Option.bind_eq_some_iff, Prod.exists,
    wide?_eq_some_iff, expect?_eq_some_iff] at read
  obtain ⟨year, _, ⟨inYear, rfl, wideYear⟩, _, rfl, month, _, ⟨inMonth, rfl, wideMonth⟩, _, rfl,
    day, _, ⟨inDay, rfl, wideDay⟩, separated⟩ := read
  split at separated
  next separator _ =>
    split at separated
    next known =>
      simp only [Option.bind_some, Option.bind_eq_some_iff, Prod.exists, wide?_eq_some_iff,
        expect?_eq_some_iff, Option.some.injEq, Prod.mk.injEq] at separated
      obtain ⟨hour, _, ⟨inHour, rfl, wideHour⟩, _, rfl, minute, _, ⟨inMinute, rfl, wideMinute⟩, _,
        rfl, second, _, ⟨inSecond, rfl, wideSecond⟩, _, fraction, rfl, rfl⟩ := separated
      obtain ⟨inFraction, rfl, isFraction⟩ := exists_isFraction_of_fraction? fraction
      exact ⟨⟨inYear, inMonth, inDay, inHour, inMinute, inSecond, inFraction⟩, separator,
        by simp [Parts.chars], List.contains_iff_mem.mp known,
        ⟨year, wideYear, rfl⟩, wideMonth, wideDay, wideHour, wideMinute, wideSecond, isFraction⟩
    next => cases separated
  next => cases separated

theorem free?_append {parts : Parts} {t : Timestamp} {rest : List Char}
    (loose : parts.SpellLoose t) (ends : EndsFraction rest) :
    free? (parts.chars 'T' ++ rest) = some (t, rest) := by
  have pair {front : List Char} {value : Nat} (loose : Loose 2 front value) {c : Char}
      (other : isDigit c = false) (rest : List Char) :
      pair? (front ++ c :: rest) = some (value, c :: rest) :=
    pair?_append loose (endsNumber_cons other rest)
  have first (rest : List Char) : year? (parts.year ++ '-' :: rest) = some (t.year, '-' :: rest) :=
    year?_append loose.year (endsNumber_cons (by decide) rest)
  have last : pair? (parts.second ++ (parts.fraction ++ rest)) =
      some (t.second, parts.fraction ++ rest) := by
    refine pair?_append loose.second fun c head => ?_
    rcases loose.fraction with none | ⟨digits, same, _⟩
    · rw [none] at head
      exact (ends c head).1
    · rw [same] at head
      obtain rfl := Option.some.inj head
      decide
  have dash : isDigit '-' = false := by decide
  have colon : isDigit ':' = false := by decide
  have letter : isDigit 'T' = false := by decide
  simp only [free?, Parts.chars, List.append_assoc, List.cons_append, first, pair loose.month dash,
    pair loose.day letter, pair loose.hour colon, pair loose.minute colon, last, expect?_cons,
    fraction?_append loose.fraction ends, Option.bind_eq_bind, Option.bind_some]

theorem exists_parts_of_free? {chars rest : List Char} {t : Timestamp}
    (read : free? chars = some (t, rest)) :
    ∃ parts, chars = Parts.chars 'T' parts ++ rest ∧ parts.SpellLoose t := by
  simp only [free?, Option.bind_eq_bind, Option.bind_eq_some_iff, Prod.exists,
    expect?_eq_some_iff, Option.some.injEq, Prod.mk.injEq] at read
  obtain ⟨year, _, readYear, _, rfl, month, _, readMonth, _, rfl, day, _, readDay, _, rfl, hour, _,
    readHour, _, rfl, minute, _, readMinute, _, rfl, second, _, readSecond, _, readFraction, rfl,
    rfl⟩ := read
  obtain ⟨inYear, rfl, looseYear⟩ := exists_loose_of_year? readYear
  obtain ⟨inMonth, rfl, looseMonth⟩ := exists_loose_of_pair? readMonth
  obtain ⟨inDay, rfl, looseDay⟩ := exists_loose_of_pair? readDay
  obtain ⟨inHour, rfl, looseHour⟩ := exists_loose_of_pair? readHour
  obtain ⟨inMinute, rfl, looseMinute⟩ := exists_loose_of_pair? readMinute
  obtain ⟨inSecond, rfl, looseSecond⟩ := exists_loose_of_pair? readSecond
  obtain ⟨inFraction, rfl, fraction⟩ := exists_isFraction_of_fraction? readFraction
  exact ⟨⟨inYear, inMonth, inDay, inHour, inMinute, inSecond, inFraction⟩, by simp [Parts.chars],
    looseYear, looseMonth, looseDay, looseHour, looseMinute, looseSecond, fraction⟩

end OrdersContract.Timestamp
