set_option autoImplicit false

namespace OrdersContract.Text

def charsOf (text : String) : List Char :=
  let bytes := text.toByteArray.data.toList
  if bytes.all (· < 0x80) then bytes.map Char.ofUInt8 else text.toList

theorem toList_bytes (text : String) :
    text.toByteArray.data.toList = text.toList.flatMap String.utf8EncodeChar := by
  have encoded : (String.ofList text.toList).toByteArray = text.toList.utf8Encode :=
    String.toByteArray_ofList
  rw [String.ofList_toList] at encoded
  rw [encoded, List.utf8Encode]
  simp

theorem not_ascii_continuation (n : Nat) : ¬ UInt8.ofNat (n % 64 + 128) < 0x80 := by
  rw [UInt8.lt_iff_toNat_lt, UInt8.toNat_ofNat_of_lt' (by simp [UInt8.size]; omega)]
  simp

theorem map_ofUInt8_of_ascii {c : Char} (ascii : ∀ byte ∈ String.utf8EncodeChar c, byte < 0x80) :
    (String.utf8EncodeChar c).map Char.ofUInt8 = [c] := by
  revert ascii
  simp only [String.utf8EncodeChar]
  -- A character of more than one byte ends in one outside ASCII.
  split
  next small =>
    intro _
    have value : (UInt8.ofNat c.val.toNat).toNat = c.val.toNat :=
      UInt8.toNat_ofNat_of_lt' (Nat.lt_of_le_of_lt small (by decide))
    have whole : Char.ofUInt8 (.ofNat c.val.toNat) = c := by
      apply Char.ext
      change (UInt8.ofNat c.val.toNat).toUInt32 = c.val
      rw [← UInt32.toNat_inj, UInt8.toNat_toUInt32, value]
    rw [List.map_singleton, whole]
  next =>
    split
    next => exact fun ascii => absurd (ascii _ (by simp)) (not_ascii_continuation c.val.toNat)
    next =>
      split
      next => exact fun ascii => absurd (ascii _ (by simp)) (not_ascii_continuation c.val.toNat)
      next => exact fun ascii => absurd (ascii _ (by simp)) (not_ascii_continuation c.val.toNat)

theorem charsOf_eq (text : String) : charsOf text = text.toList := by
  rw [charsOf, toList_bytes]
  split
  next ascii =>
    have each (c : Char) (member : c ∈ text.toList) :
        (String.utf8EncodeChar c).map Char.ofUInt8 = [c] := by
      apply map_ofUInt8_of_ascii
      intro byte inside
      have small := List.all_eq_true.mp ascii byte (List.mem_flatMap_of_mem member inside)
      simpa using small
    rw [List.map_flatMap, List.flatMap_def, List.map_congr_left each]
    exact List.flatMap_singleton' text.toList
  next => rfl

end OrdersContract.Text
