import OrdersContract.Address.Domain

set_option autoImplicit false

namespace OrdersContract

namespace Text

theorem mem_of_mapM {α β : Type} {f : α → Option β} {items : List α} {images : List β} {item : α}
    {image : β} (mapped : items.mapM f = some images) (member : item ∈ items)
    (same : f item = some image) : image ∈ images := by
  induction items generalizing images with
  | nil => simp at member
  | cons first rest ih =>
    simp only [List.mapM_cons, Option.bind_eq_bind, Option.bind_eq_some_iff, Option.pure_def,
      Option.some.injEq] at mapped
    obtain ⟨head, found, others, mapped, rfl⟩ := mapped
    rcases List.mem_cons.mp member with rfl | later
    · obtain rfl := Option.some.inj (same.symm.trans found)
      exact List.mem_cons_self
    · exact List.mem_cons_of_mem _ (ih mapped later)

namespace Utf8

theorem mem_of_tails? {count code result : Nat} {bytes rest : List UInt8} {byte : UInt8}
    (found : tails? count code bytes = some (result, rest)) (member : byte ∈ bytes)
    (ascii : byte.toNat < 0x80) : byte ∈ rest := by
  fun_induction tails? count code bytes with
  | case1 => simp_all
  | case2 count code first bytes ih =>
    obtain ⟨bits, tail, found⟩ := Option.bind_eq_some_iff.mp found
    rcases List.mem_cons.mp member with rfl | later
    · have notTail : tail? byte = none := by
        rw [tail?, if_neg (by omega)]
      simp [notTail] at tail
    · exact ih bits found later
  | case3 => simp at found

theorem decodeChar?_of_ascii {byte : UInt8} (ascii : byte.toNat < 0x80) (rest : List UInt8) :
    decodeChar? (byte :: rest) = some (.ofNat byte.toNat, rest) := by
  have lead : lead? byte = some (byte.toNat, 0, 0) := by
    simp [lead?, ascii]
  have valid : byte.toNat.isValidChar := .inl (by omega)
  exact decodeChar?_cons lead rfl (by simp [scalar?, valid])

theorem mem_decodeAfter {done : List Symbol} {bytes : List UInt8} {symbol : Symbol}
    (present : symbol ∈ done ∨
      ∃ byte ∈ bytes, byte.toNat < 0x80 ∧ symbol = .char (.ofNat byte.toNat)) :
    symbol ∈ decodeAfter done bytes := by
  fun_induction decodeAfter done bytes with
  | case1 => simpa using present
  | case2 done first rest c after found ih =>
    apply ih
    rcases present with earlier | ⟨byte, member, ascii, same⟩
    · exact .inl (List.mem_cons_of_mem _ earlier)
    · rcases List.mem_cons.mp member with rfl | later
      · rw [decodeChar?_of_ascii ascii, Option.some.injEq, Prod.mk.injEq] at found
        exact .inl (by simp [same, found.1])
      · simp only [decodeChar?, Option.bind_eq_bind, Option.bind_eq_some_iff, Option.some.injEq,
          Prod.mk.injEq] at found
        obtain ⟨_, _, _, tails, _, _, _, rfl⟩ := found
        exact .inr ⟨byte, mem_of_tails? tails later ascii, ascii, same⟩
  | case3 done first rest found ih =>
    apply ih
    rcases present with earlier | ⟨byte, member, ascii, same⟩
    · exact .inl (List.mem_cons_of_mem _ earlier)
    · rcases List.mem_cons.mp member with rfl | later
      · simp [decodeChar?_of_ascii ascii] at found
      · exact .inr ⟨byte, later, ascii, same⟩

theorem encodeChar_of_ascii {c : Char} (ascii : c.toNat < 0x80) :
    encodeChar c = [.ofNat c.toNat] := by
  simp [encodeChar, ascii]

end Utf8

theorem mem_settle {c member : Char} {chars : List Char} (present : member = c ∨ member ∈ chars) :
    member ∈ settle c chars := by
  induction chars with
  | nil => simpa [settle] using present
  | cons next rest ih =>
    simp only [settle]
    split
    next =>
      rcases present with rfl | listed
      · exact List.mem_cons_of_mem _ (ih (.inl rfl))
      · rcases List.mem_cons.mp listed with rfl | later
        · exact List.mem_cons_self
        · exact List.mem_cons_of_mem _ (ih (.inr later))
    next => simpa using present

theorem mem_inCanonicalOrder {c : Char} {chars : List Char} (member : c ∈ chars) :
    c ∈ inCanonicalOrder chars := by
  induction chars with
  | nil => simp at member
  | cons first rest ih =>
    rcases List.mem_cons.mp member with rfl | later
    · exact mem_settle (.inl rfl)
    · exact mem_settle (.inr (ih later))

/-- A character that is part of no other one. -/
structure Solitary (c : Char) : Prop where
  whole : divide? c = none
  first : ∀ second, compose? c second = none
  second : ∀ first, compose? first c = none

theorem Solitary.mem_composeInto {c starter : Char} {passed rest : List Char}
    (solitary : Solitary c) (present : c = starter ∨ c ∈ passed ∨ c ∈ rest) :
    c ∈ composeInto starter passed rest := by
  induction rest generalizing starter passed with
  | nil => simpa [composeInto] using present
  | cons next rest ih =>
    rw [composeInto]
    split
    next whole composed =>
      have pair : compose? starter next = some whole := by
        split at composed
        · exact composed
        · simp at composed
      apply ih
      rcases present with rfl | earlier | listed
      · simp [solitary.first] at pair
      · exact .inr (.inl earlier)
      · rcases List.mem_cons.mp listed with rfl | later
        · simp [solitary.second] at pair
        · exact .inr (.inr later)
    next =>
      split
      next =>
        rcases present with rfl | earlier | listed
        · simp
        · simp [earlier]
        · have later : c ∈ composeInto next [] rest :=
            ih ((List.mem_cons.mp listed).imp_right .inr)
          exact List.mem_append_right _ later
      next =>
        apply ih
        rcases present with same | earlier | listed
        · exact .inl same
        · exact .inr (.inl (List.mem_cons_of_mem _ earlier))
        · rcases List.mem_cons.mp listed with rfl | later
          · exact .inr (.inl List.mem_cons_self)
          · exact .inr (.inr later)

theorem Solitary.mem_composeAll {c : Char} {chars : List Char} (solitary : Solitary c)
    (member : c ∈ chars) : c ∈ composeAll chars := by
  induction chars with
  | nil => simp at member
  | cons first rest ih =>
    rw [composeAll]
    split
    next => exact solitary.mem_composeInto ((List.mem_cons.mp member).imp_right .inr)
    next =>
      rcases List.mem_cons.mp member with rfl | later
      · exact List.mem_cons_self
      · exact List.mem_cons_of_mem _ (ih later)

theorem Solitary.mem_composed {c : Char} {chars : List Char} (solitary : Solitary c)
    (member : c ∈ chars) : c ∈ composed chars := by
  have own : parts c = [c] := by
    simp [parts, partsTo, solitary.whole]
  apply solitary.mem_composeAll
  apply mem_inCanonicalOrder
  exact List.mem_flatMap.mpr ⟨c, member, by simp [own]⟩

theorem solitary_of_le_space {c : Char} (low : c.toNat ≤ 0x20) : Solitary c where
  whole := by
    rw [divide?, if_pos (by omega)]
  second := by
    intro first
    rw [compose?, if_pos (by omega)]
  first := by
    intro second
    have later : ∀ pair ∈ compositions, 0x20 < pair.first.toNat := by
      decide +kernel
    have syllable : Syllable.compose? c.toNat second.toNat = none := by
      rw [Syllable.compose?, if_neg (by simp only [Syllable.firstLead]; omega),
        if_neg (by simp only [Syllable.firstCode]; omega)]
    have absent : compositions.find? (fun pair => pair.second == second && pair.first == c) = none := by
      rw [List.find?_eq_none]
      intro pair listed
      have greater := later pair listed
      simp only [Bool.and_eq_true, beq_iff_eq, not_and]
      rintro _ rfl
      omega
    simp [compose?, syllable, absent]

end Text

namespace Address

open Text

theorem hostText?_keeps {c : Char} (low : c.toNat ≤ 0x20) {chars text : List Char}
    (member : c ∈ chars) (read : hostText? chars = some text) : c ∈ text := by
  have small : c.isUpper = false := by
    rw [Bool.eq_false_iff]
    intro upper
    have above : 0x41 ≤ c.toNat := (of_decide_eq_true upper).1
    omega
  have stays : hostChars? c = some [c] := by
    simp [hostChars?, hostCharacter, small, show c.toNat < 0x80 by omega]
  obtain ⟨images, mapped, rfl⟩ := Option.map_eq_some_iff.mp read
  apply (solitary_of_le_space low).mem_composed
  exact List.mem_flatten.mpr ⟨[c], mem_of_mapM mapped member stays, List.mem_singleton.mpr rfl⟩

theorem hexDigitValue?_of_le_space {c : Char} (low : c.toNat ≤ 0x20) : hexDigitValue? c = none := by
  have below (least : Char) (above : 0x20 < least.toNat) : ¬ least ≤ c := by
    intro le
    have order : least.toNat ≤ c.toNat := le
    omega
  simp [hexDigitValue?, below '0' (by decide), below 'a' (by decide), below 'A' (by decide)]

theorem mem_decode {c : Char} (low : c.toNat ≤ 0x20) {chars : List Char} (member : c ∈ chars) :
    UInt8.ofNat c.toNat ∈ decode chars := by
  have written := Utf8.encodeChar_of_ascii (show c.toNat < 0x80 by omega)
  have notMark : c ≠ '%' := by
    rintro rfl
    exact absurd low (by decide)
  have notHex := hexDigitValue?_of_le_space low
  fun_induction decode chars with
  | case1 a b rest _ _ lower upper ih =>
    simp only [List.mem_cons, notMark, false_or] at member
    rcases member with rfl | rfl | later
    · simp [notHex] at upper
    · simp [notHex] at lower
    · exact List.mem_cons_of_mem _ (ih later)
  | case2 a b rest plain ih =>
    exact List.mem_append_right _ (ih ((List.mem_cons.mp member).resolve_left notMark))
  | case3 first rest other ih =>
    rcases List.mem_cons.mp member with rfl | later
    · simp [written]
    · exact List.mem_append_right _ (ih later)
  | case4 => simp at member

theorem Domain.read?_of_le_space {c : Char} (low : c.toNat ≤ 0x20) {chars : List Char}
    (member : c ∈ chars) : Domain.read? chars = none := by
  have ascii : (UInt8.ofNat c.toNat).toNat = c.toNat := Utf8.toNat_ofNat_of_lt (by omega)
  have symbol : Symbol.char c ∈ Utf8.decode (decode chars) := by
    apply Utf8.mem_decodeAfter
    exact .inr ⟨_, mem_decode low member, by omega, by rw [ascii, Char.ofNat_toNat]⟩
  rw [Domain.read?, Option.bind_eq_none_iff]
  intro plain decoded
  have kept : c ∈ plain := mem_of_mapM decoded symbol rfl
  cases read : hostText? plain with
  | none => simp [Domain.ascii?, read]
  | some text =>
    have forbidden : text.any Domain.isForbidden = true := by
      rw [List.any_eq_true]
      exact ⟨c, hostText?_keeps low kept read, by simp [Domain.isForbidden, low]⟩
    simp only [Domain.ascii?, read, Option.bind_eq_bind, Option.bind_some, forbidden, if_true]

end Address

end OrdersContract
