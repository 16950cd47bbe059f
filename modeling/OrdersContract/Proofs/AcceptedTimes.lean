import Mathlib.Tactic.IntervalCases
import OrdersContract.Document.Requirement
import OrdersContract.Proofs.SpelledTimes

/-!
Which texts are timestamps. A text in the documented layout is one if its date is on the calendar,
its time of day on the clock and its offset less than a day. Two kinds of texts outside that layout
are timestamps too: those with a minus for the sign of the offset, and those without a zone whose
numbers are shorter, stand behind white space or, for the year, have a sign.
-/

set_option autoImplicit false

namespace OrdersContract.Timestamp

open Text

def monthLengths (year : Int) : List Nat :=
  [31, if 4 ∣ year ∧ (100 ∣ year → 400 ∣ year) then 29 else 28, 31, 30, 31, 30, 31, 31, 30, 31,
    30, 31]

structure OnCalendar (t : Timestamp) : Prop where
  month : 1 ≤ t.month ∧ t.month ≤ 12
  day : 1 ≤ t.day ∧ ∃ length ∈ (monthLengths t.year)[t.month - 1]?, t.day ≤ length

structure OnClock (t : Timestamp) : Prop where
  hour : t.hour ≤ 23
  minute : t.minute ≤ 59
  second : t.second ≤ 60

theorem isLeapYear_iff (year : Int) :
    isLeapYear year = true ↔ 4 ∣ year ∧ (100 ∣ year → 400 ∣ year) := by
  simp only [isLeapYear, Bool.and_eq_true, Bool.or_eq_true, beq_iff_eq, bne_iff_ne]
  omega

theorem getElem?_monthLengths (year : Int) {month : Nat} (first : 1 ≤ month) (last : month ≤ 12) :
    (monthLengths year)[month - 1]? = some (daysInMonth year month) := by
  simp only [monthLengths, daysInMonth, ← isLeapYear_iff]
  interval_cases month <;> rfl

theorem isReal_iff (t : Timestamp) :
    t.IsReal ↔ (earliestYear ≤ t.year ∧ t.year ≤ latestYear) ∧ t.OnCalendar ∧ t.OnClock := by
  constructor
  · rintro ⟨early, late, first, last, day, short, hour, minute, second⟩
    exact ⟨⟨early, late⟩,
      ⟨⟨first, last⟩, day, _, getElem?_monthLengths t.year first last, short⟩,
      hour, minute, second⟩
  · rintro ⟨⟨early, late⟩, ⟨⟨first, last⟩, day, length, listed, short⟩, hour, minute, second⟩
    obtain rfl := Option.some.inj ((getElem?_monthLengths t.year first last).symm.trans listed)
    exact ⟨early, late, first, last, day, short, hour, minute, second⟩

theorem numeral_lt {base : Nat} {digits : List Nat} (small : ∀ digit ∈ digits, digit < base) :
    numeral base digits < base ^ digits.length := by
  suffices bound : ∀ start, digits.foldl (fun value digit => value * base + digit) start <
      (start + 1) * base ^ digits.length by
    simpa [numeral] using bound 0
  induction digits with
  | nil => simp
  | cons digit rest ih =>
    intro start
    have first := small digit List.mem_cons_self
    have behind := ih (fun digit member => small digit (List.mem_cons_of_mem _ member))
      (start * base + digit)
    have step : start * base + digit + 1 ≤ (start + 1) * base := by
      rw [Nat.add_mul]
      omega
    calc _ < (start * base + digit + 1) * base ^ rest.length := behind
      _ ≤ (start + 1) * base * base ^ rest.length := Nat.mul_le_mul_right _ step
      _ = (start + 1) * base ^ (rest.length + 1) := by rw [Nat.pow_succ', Nat.mul_assoc]

theorem Names.lt {digits : List Char} {value : Nat} (names : Names digits value) :
    value < 10 ^ digits.length := by
  have small : ∀ digit ∈ digits.map (fun c => c.toNat - '0'.toNat), digit < 10 := by
    intro digit listed
    obtain ⟨c, member, rfl⟩ := List.mem_map.mp listed
    have decimal : '0' ≤ c ∧ c ≤ '9' := by
      simpa [isDigit, digitValue?] using names.each c member
    have above : '0'.toNat ≤ c.toNat := decimal.1
    have below : c.toNat ≤ '9'.toNat := decimal.2
    have nine : '9'.toNat = '0'.toNat + 9 := rfl
    omega
  have bound := numeral_lt small
  rwa [names.value_eq, List.length_map] at bound

theorem WideYear.bounds {chars : List Char} {year : Int} (wide : WideYear chars year) :
    earliestYear ≤ year ∧ year ≤ latestYear := by
  obtain ⟨value, ⟨width, names⟩, rfl⟩ := wide
  have bound := names.lt
  rw [width] at bound
  simp only [earliestYear, latestYear]
  omega

theorem Zone.mono {signs more zone : List Char} {offset : Option (Nat × Nat)}
    (within : signs ⊆ more) (zoned : Zone signs zone offset) : Zone more zone offset := by
  cases zoned with
  | utc known => exact .utc known
  | offset known inHours inMinutes => exact .offset (within known) inHours inMinutes

theorem Zone.ne_nil {signs zone : List Char} {offset : Option (Nat × Nat)}
    (zoned : Zone signs zone offset) : zone ≠ [] := by
  cases zoned <;> simp

theorem isZoned_append {parts : Parts} {t : Timestamp} {separator : Char} {rest : List Char}
    (wide : parts.SpellWide t) (known : separator ∈ separators) (ends : EndsFraction rest) :
    isZoned (parts.chars separator ++ rest) = true ↔
      t.OnCalendar ∧ t.OnClock ∧ isOffset rest = true := by
  rw [isZoned, fixed?_append wide known ends]
  simp [isReal_iff, wide.year.bounds, and_assoc]

theorem isLocal_append {parts : Parts} {t : Timestamp} {rest : List Char}
    (loose : parts.SpellLoose t) (ends : EndsFraction rest) :
    isLocal (parts.chars 'T' ++ rest) = true ↔ t.IsReal ∧ rest = [] := by
  rw [isLocal, free?_append loose ends]
  simp

theorem isZoned_iff {chars : List Char} : isZoned chars = true ↔
    ∃ parts t separator zone offset, chars = Parts.chars separator parts ++ zone ∧
      separator ∈ separators ∧ parts.SpellWide t ∧ Zone offsetSigns zone offset ∧
      t.OnCalendar ∧ t.OnClock ∧ IsSmall offset := by
  constructor
  · intro read
    rw [isZoned] at read
    split at read
    next t zone fixed =>
      rw [Bool.and_eq_true, decide_eq_true_eq, isReal_iff] at read
      obtain ⟨⟨_, date, time⟩, read⟩ := read
      obtain ⟨parts, separator, rfl, known, wide⟩ := exists_parts_of_fixed? fixed
      obtain ⟨offset, zoned, small⟩ := exists_zone_of_isOffset read
      exact ⟨parts, t, separator, zone, offset, rfl, known, wide, zoned, date, time, small⟩
    next => cases read
  · rintro ⟨parts, t, separator, zone, offset, rfl, known, wide, zoned, date, time, small⟩
    exact (isZoned_append wide known zoned.endsFraction).mpr
      ⟨date, time, (isOffset_of_zone zoned).mpr small⟩

theorem isLocal_iff {chars : List Char} : isLocal chars = true ↔
    ∃ parts t, chars = Parts.chars 'T' parts ∧ parts.SpellLoose t ∧ t.IsReal := by
  have ends : EndsFraction [] := by simp [EndsFraction]
  constructor
  · intro read
    rw [isLocal] at read
    split at read
    next t rest free =>
      simp only [Bool.and_eq_true, decide_eq_true_eq, List.isEmpty_iff] at read
      obtain ⟨real, rfl⟩ := read
      obtain ⟨parts, rfl, loose⟩ := exists_parts_of_free? free
      exact ⟨parts, t, List.append_nil _, loose, real⟩
    next => cases read
  · rintro ⟨parts, t, rfl, loose, real⟩
    rw [← List.append_nil (parts.chars 'T')]
    exact (isLocal_append loose ends).mpr ⟨real, rfl⟩

theorem isTimestamp_present (text : String) :
    (Field.present (.string text)).isTimestamp = isTimestamp text := rfl

/-- In the documented layout the numbers alone decide: the date is on the calendar, the time of day
on the clock, a leap second included, and the offset is less than a day. -/
theorem isTimestamp_iff_of_layout {text : String} {parts : Parts} {t : Timestamp}
    {zone : List Char} {offset : Option (Nat × Nat)}
    (written : text.toList = parts.chars 'T' ++ zone) (wide : parts.SpellWide t)
    (zoned : zone = [] ∧ offset = none ∨ Zone ['+', '-'] zone offset) :
    (Field.present (.string text)).isTimestamp = true ↔
      t.OnCalendar ∧ t.OnClock ∧ IsSmall offset := by
  have known : 'T' ∈ separators := by decide
  rw [isTimestamp_present, isTimestamp, written, Bool.or_eq_true]
  rcases zoned with ⟨rfl, rfl⟩ | zoned
  · have ends : EndsFraction [] := by simp [EndsFraction]
    have unzoned : ¬isOffset [] = true := by decide
    rw [isZoned_append wide known ends, isLocal_append wide.loose ends, isReal_iff]
    simp [unzoned, wide.year.bounds, IsSmall]
  · have signed : Zone offsetSigns zone offset := zoned.mono (by decide)
    rw [isZoned_append wide known signed.endsFraction,
      isLocal_append wide.loose signed.endsFraction, isOffset_of_zone signed]
    simp [zoned.ne_nil]

def leapParts : Parts where
  year := ['2', '0', '2', '4']
  month := ['0', '2']
  day := ['2', '9']
  hour := ['2', '3']
  minute := ['5', '9']
  second := ['6', '0']
  fraction := ['.', '0', '0', '7', '1']

theorem leapParts_spellWide : leapParts.SpellWide ⟨2024, 2, 29, 23, 59, 60⟩ := by
  have wide {width value : Nat} {digits : List Char} (length : digits.length = width)
      (read : readDecimal? digits = some value) : Wide width digits value :=
    ⟨length, names_iff.mpr read⟩
  exact {
    year := ⟨2024, wide rfl (by decide), rfl⟩
    month := wide rfl (by decide)
    day := wide rfl (by decide)
    hour := wide rfl (by decide)
    minute := wide rfl (by decide)
    second := wide rfl (by decide)
    fraction := .inr ⟨_, rfl, by decide, List.all_eq_true.mp (by decide)⟩ }

theorem leapParts_isTimestamp :
    "2024-02-29T23:59:60.0071-05:30".toList =
        leapParts.chars 'T' ++ ['-', '0', '5', ':', '3', '0'] ∧
      leapParts.SpellWide ⟨2024, 2, 29, 23, 59, 60⟩ ∧
      Zone ['+', '-'] ['-', '0', '5', ':', '3', '0'] (some (5, 30)) ∧
      (Field.present (.string "2024-02-29T23:59:60.0071-05:30")).isTimestamp = true := by
  have written : "2024-02-29T23:59:60.0071-05:30".toList =
      leapParts.chars 'T' ++ ['-', '0', '5', ':', '3', '0'] := by
    decide +kernel
  have hours : Wide 2 ['0', '5'] 5 := ⟨rfl, names_iff.mpr (by decide)⟩
  have minutes : Wide 2 ['3', '0'] 30 := ⟨rfl, names_iff.mpr (by decide)⟩
  have zoned : Zone ['+', '-'] ['-', '0', '5', ':', '3', '0'] (some (5, 30)) :=
    .offset (by decide) hours minutes
  refine ⟨written, leapParts_spellWide, zoned, ?_⟩
  refine (isTimestamp_iff_of_layout written leapParts_spellWide (.inr zoned)).mpr ⟨?_, ?_, ?_⟩
  · exact ⟨by decide, by decide, 29, by decide, by decide⟩
  · exact ⟨by decide, by decide, by decide⟩
  · simp [IsSmall]

/-- The documented layout, whatever character separates the date from the time of day. -/
def InLayout (text : String) : Prop :=
  ∃ (parts : Parts) (t : Timestamp) (separator : Char) (zone : List Char),
    text.toList = parts.chars separator ++ zone ∧ parts.SpellWide t ∧
      (zone = [] ∨ ∃ offset, Zone ['+', '-'] zone offset)

theorem length_of_inLayout {text : String} (layout : InLayout text) : 19 ≤ text.toList.length := by
  obtain ⟨parts, t, separator, zone, written, wide, _⟩ := layout
  obtain ⟨_, ⟨year, _⟩, _⟩ := wide.year
  have month := wide.month.1
  have day := wide.day.1
  have hour := wide.hour.1
  have minute := wide.minute.1
  have second := wide.second.1
  simp only [written, Parts.chars, List.length_append, List.length_cons]
  omega

/-- A text that is read either with a zone, every width fixed, or without one, the widths free. -/
def Written (parts : Parts) (t : Timestamp) (separator : Char) (zone : List Char) : Prop :=
  parts.SpellWide t ∧ separator ∈ ['T', 't', ' '] ∧
      (∃ offset, Zone ['+', '-', '\u2212'] zone offset ∧ IsSmall offset) ∨
    parts.SpellLoose t ∧ separator = 'T' ∧ zone = [] ∧ -262143 ≤ t.year ∧ t.year ≤ 262142

theorem Written.loose {parts : Parts} {t : Timestamp} {separator : Char} {zone : List Char}
    (written : Written parts t separator zone) : parts.SpellLoose t :=
  written.elim (fun fixed => fixed.1.loose) And.left

theorem isTimestamp_iff_exists_written (text : String) :
    isTimestamp text = true ↔ ∃ parts t separator zone,
      text.toList = Parts.chars separator parts ++ zone ∧ t.OnCalendar ∧ t.OnClock ∧
        Written parts t separator zone := by
  rw [isTimestamp, Bool.or_eq_true, isZoned_iff, isLocal_iff]
  constructor
  · rintro (⟨parts, t, separator, zone, offset, written, known, wide, zoned, date, time, small⟩ |
      ⟨parts, t, written, loose, real⟩)
    · exact ⟨parts, t, separator, zone, written, date, time,
        .inl ⟨wide, known, offset, zoned, small⟩⟩
    · obtain ⟨⟨early, late⟩, date, time⟩ := (isReal_iff t).mp real
      exact ⟨parts, t, 'T', [], by rw [written, List.append_nil], date, time,
        .inr ⟨loose, rfl, rfl, early, late⟩⟩
  · rintro ⟨parts, t, separator, zone, written, date, time,
      ⟨wide, known, offset, zoned, small⟩ | ⟨loose, rfl, rfl, early, late⟩⟩
    · exact .inl ⟨parts, t, separator, zone, offset, written, known, wide, zoned, date, time, small⟩
    · rw [List.append_nil] at written
      exact .inr ⟨parts, t, written, loose, (isReal_iff t).mpr ⟨⟨early, late⟩, date, time⟩⟩

theorem outside_of_written {text : String} {parts : Parts} {t : Timestamp} {separator : Char}
    {zone : List Char} (split : text.toList = parts.chars separator ++ zone)
    (written : Written parts t separator zone) (outside : ¬InLayout text) :
    (separator = 'T' ∧ zone = [] ∧ ¬parts.SpellWide t) ∨
      parts.SpellWide t ∧ zone.head? = some '\u2212' := by
  rcases written with ⟨wide, _, offset, zoned, _⟩ | ⟨_, rfl, rfl, _, _⟩
  · refine .inr ⟨wide, ?_⟩
    cases zoned with
    | utc known => exact absurd ⟨parts, t, separator, _, split, wide, .inr ⟨_, .utc known⟩⟩ outside
    | @offset sign hours minutes h m known inHours inMinutes =>
      by_cases ascii : sign ∈ ['+', '-']
      · have documented : Zone ['+', '-'] (sign :: (hours ++ ':' :: minutes)) (some (h, m)) :=
          .offset ascii inHours inMinutes
        exact absurd ⟨parts, t, separator, _, split, wide, .inr ⟨_, documented⟩⟩ outside
      · have minus : sign = '\u2212' := by
          simp only [List.mem_cons, List.not_mem_nil, or_false] at known ascii
          tauto
        rw [minus, List.head?_cons]
  · refine .inl ⟨rfl, rfl, fun wide => outside ?_⟩
    exact ⟨parts, t, 'T', [], split, wide, .inl rfl⟩

/--
The texts that pass are those that are written in one of the two ways and name a moment. Those
outside the documented layout have no zone, and numbers that are not in their full widths, or they
have a minus in front of the offset.
-/
theorem accepted_iff_written (text : String) :
    ((Field.present (.string text)).isTimestamp = true ↔
      ∃ parts t separator zone, text.toList = Parts.chars separator parts ++ zone ∧
        t.OnCalendar ∧ t.OnClock ∧ Written parts t separator zone) ∧
    ((Field.present (.string text)).isTimestamp = true → ¬InLayout text →
      ∃ parts t separator zone, text.toList = Parts.chars separator parts ++ zone ∧
        (separator = 'T' ∧ zone = [] ∧ parts.SpellLoose t ∧ ¬parts.SpellWide t ∨
          parts.SpellWide t ∧ zone.head? = some '\u2212')) := by
  rw [isTimestamp_present]
  refine ⟨isTimestamp_iff_exists_written text, fun accepted outside => ?_⟩
  obtain ⟨parts, t, separator, zone, split, _, _, written⟩ :=
    (isTimestamp_iff_exists_written text).mp accepted
  refine ⟨parts, t, separator, zone, split, ?_⟩
  exact (outside_of_written split written outside).imp_left fun ⟨letter, bare, narrow⟩ =>
    ⟨letter, bare, written.loose, narrow⟩

def shortText : String := "2024-1-5T1:2:3"

theorem shortText_passes : (Field.present (.string shortText)).isTimestamp = true := by
  decide +kernel

theorem shortText_outside : ¬InLayout shortText := fun layout =>
  absurd (length_of_inLayout layout) (by decide +kernel)

theorem shortText_written :
    (Field.present (.string shortText)).isTimestamp = true ∧ ¬InLayout shortText ∧
      ∃ parts t separator zone, shortText.toList = Parts.chars separator parts ++ zone ∧
        (separator = 'T' ∧ zone = [] ∧ parts.SpellLoose t ∧ ¬parts.SpellWide t ∨
          parts.SpellWide t ∧ zone.head? = some '\u2212') :=
  ⟨shortText_passes, shortText_outside,
    (accepted_iff_written shortText).2 shortText_passes shortText_outside⟩

theorem shortNumbers_accepted : ¬∀ text : String,
    (Field.present (.string text)).isTimestamp = true → InLayout text :=
  fun always => shortText_outside (always shortText shortText_passes)

end OrdersContract.Timestamp
