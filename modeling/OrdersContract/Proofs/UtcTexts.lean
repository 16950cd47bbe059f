import Mathlib.Algebra.Ring.Nat
import OrdersContract.Proofs.SpelledTimes
import OrdersContract.Text.Fixed

set_option autoImplicit false

namespace OrdersContract

namespace Text

theorem paddedDecimal_one {value : Nat} (small : value < 10) :
    paddedDecimal 1 value = [digitChar value] := by
  simp [paddedDecimal, decimal_of_lt small]

theorem paddedDecimal_succ {width value : Nat} (wide : 0 < width) :
    paddedDecimal (width + 1) value = paddedDecimal width (value / 10) ++ [digitChar (value % 10)] := by
  by_cases small : value < 10
  next =>
    obtain ⟨width, rfl⟩ := Nat.exists_eq_add_one.mpr wide
    have quotient : value / 10 = 0 := by omega
    have rest : value % 10 = value := by omega
    rw [quotient, rest, paddedDecimal, paddedDecimal, decimal_of_lt small, decimal_of_lt (by decide)]
    simp [List.replicate_succ', digitChar]
  next => simp [paddedDecimal, decimal_of_le (Nat.not_lt.mp small)]

theorem digits_paddedDecimal {width value : Nat} (wide : 0 < width) (fits : value < 10 ^ width) :
    (paddedDecimal width value).length = width ∧
      ∃ digits, (paddedDecimal width value).mapM digitValue? = some digits ∧
        numeral 10 digits = value := by
  induction width generalizing value with
  | zero => contradiction
  | succ width ih =>
    by_cases first : width = 0
    next =>
      subst first
      have small : value < 10 := by simpa using fits
      refine ⟨by simp [paddedDecimal_one small], [value], ?_, by simp [numeral]⟩
      simp [paddedDecimal_one small, digitValue?_digitChar small]
    next =>
      have before : value / 10 < 10 ^ width := by
        rw [Nat.pow_succ] at fits
        omega
      obtain ⟨length, digits, read, named⟩ := ih (Nat.pos_of_ne_zero first) before
      have last : value % 10 < 10 := Nat.mod_lt _ (by decide)
      rw [paddedDecimal_succ (Nat.pos_of_ne_zero first)]
      refine ⟨by simp [length], digits ++ [value % 10], ?_, ?_⟩
      · simp [List.mapM_append, read, digitValue?_digitChar last]
      · rw [numeral, List.foldl_append, ← numeral, named]
        simp only [List.foldl_cons, List.foldl_nil]
        omega

end Text

namespace Timestamp

open Text

theorem wide_paddedDecimal {width value : Nat} (wide : 0 < width) (fits : value < 10 ^ width) :
    Wide width (paddedDecimal width value) value := by
  obtain ⟨length, digits, read, named⟩ := digits_paddedDecimal wide fits
  have filled : paddedDecimal width value ≠ [] := by
    rw [← List.length_pos_iff, length]
    exact wide
  exact ⟨length, names_iff.mpr (by simp [readDecimal?, filled, read, named])⟩

def utcText (t : Timestamp) : String :=
  .ofList (paddedDecimal 4 t.year.toNat ++ '-' :: (paddedDecimal 2 t.month ++
    '-' :: (paddedDecimal 2 t.day ++ 'T' :: (paddedDecimal 2 t.hour ++
      ':' :: (paddedDecimal 2 t.minute ++ ':' :: (paddedDecimal 2 t.second ++ ['Z']))))))

example : utcText ⟨2024, 5, 1, 10, 0, 0⟩ = "2024-05-01T10:00:00Z" := by
  decide +kernel

def HasUtcText (t : Timestamp) : Prop := t.IsReal ∧ 0 ≤ t.year ∧ t.year ≤ 9999

instance (t : Timestamp) : Decidable t.HasUtcText := by unfold HasUtcText; infer_instance

theorem daysInMonth_le (year : Int) (month : Nat) : daysInMonth year month ≤ 31 := by
  unfold daysInMonth
  split
  next => split <;> omega
  next => split <;> omega

theorem fixed?_utcText {t : Timestamp} (writable : t.HasUtcText) :
    fixed? t.utcText.toList = some (t, ['Z']) := by
  obtain ⟨⟨_, _, _, month, _, day, hour, minute, second⟩, positive, year⟩ := writable
  have days := daysInMonth_le t.year t.month
  have pair (value : Nat) (small : value < 100) : Wide 2 (paddedDecimal 2 value) value :=
    wide_paddedDecimal (by decide) small
  let parts : Parts := ⟨paddedDecimal 4 t.year.toNat, paddedDecimal 2 t.month,
    paddedDecimal 2 t.day, paddedDecimal 2 t.hour, paddedDecimal 2 t.minute,
    paddedDecimal 2 t.second, []⟩
  have spelled : parts.SpellWide t := {
    year := ⟨t.year.toNat, wide_paddedDecimal (by decide) (by omega),
      (Int.toNat_of_nonneg positive).symm⟩
    month := pair t.month (by omega)
    day := pair t.day (by omega)
    hour := pair t.hour (by omega)
    minute := pair t.minute (by omega)
    second := pair t.second (by omega)
    fraction := .inl rfl }
  have written : t.utcText.toList = parts.chars 'T' ++ ['Z'] := by
    simp [utcText, parts, Parts.chars]
  have zone : Zone offsetSigns ['Z'] none := .utc (by decide)
  rw [written]
  exact fixed?_append spelled (by decide) zone.endsFraction

theorem utcText_injective {a b : Timestamp} (writableA : a.HasUtcText) (writableB : b.HasUtcText)
    (same : a.utcText = b.utcText) : a = b := by
  have read := fixed?_utcText writableA
  rw [same, fixed?_utcText writableB] at read
  simpa using read.symm

theorem isTimestamp_utcText {t : Timestamp} (writable : t.HasUtcText) :
    isTimestamp t.utcText = true := by
  simp [isTimestamp, isZoned, fixed?_utcText writable, writable.1, isOffset]

end Timestamp

end OrdersContract
