set_option autoImplicit false

namespace OrdersContract.Text

inductive Symbol where
  | char (c : Char)
  | stray (byte : UInt8)
deriving DecidableEq

namespace Utf8

def byteCount (c : Char) : Nat :=
  if c.toNat < 0x80 then 1 else if c.toNat < 0x800 then 2 else if c.toNat < 0x10000 then 3 else 4

def encodeChar (c : Char) : List UInt8 :=
  let n := c.toNat
  if n < 0x80 then [.ofNat n]
  else if n < 0x800 then [.ofNat (0xc0 + n / 64), .ofNat (0x80 + n % 64)]
  else if n < 0x10000 then
    [.ofNat (0xe0 + n / 4096), .ofNat (0x80 + n / 64 % 64), .ofNat (0x80 + n % 64)]
  else
    [.ofNat (0xf0 + n / 262144), .ofNat (0x80 + n / 4096 % 64), .ofNat (0x80 + n / 64 % 64),
      .ofNat (0x80 + n % 64)]

def encode (chars : List Char) : List UInt8 := chars.flatMap encodeChar

def tail? (byte : UInt8) : Option Nat :=
  if 0x80 ≤ byte.toNat ∧ byte.toNat < 0xc0 then some (byte.toNat - 0x80) else none

/-- The character of a code point that has no shorter form. -/
def scalar? (least code : Nat) : Option Char :=
  if least ≤ code ∧ code.isValidChar then some (.ofNat code) else none

/-- The bits of a byte that begins a character, how many bytes follow it, and the least code point
that needs them. -/
def lead? (byte : UInt8) : Option (Nat × Nat × Nat) :=
  let n := byte.toNat
  if n < 0x80 then some (n, 0, 0)
  else if n < 0xc0 then none
  else if n < 0xe0 then some (n - 0xc0, 1, 0x80)
  else if n < 0xf0 then some (n - 0xe0, 2, 0x800)
  else if n < 0xf8 then some (n - 0xf0, 3, 0x10000)
  else none

def tails? : Nat → Nat → List UInt8 → Option (Nat × List UInt8)
  | 0, code, rest => some (code, rest)
  | count + 1, code, byte :: rest =>
    (tail? byte).bind fun bits => tails? count (code * 64 + bits) rest
  | _ + 1, _, [] => none

def decodeChar? : List UInt8 → Option (Char × List UInt8)
  | [] => none
  | byte :: rest => do
    let (bits, count, least) ← lead? byte
    let (code, after) ← tails? count bits rest
    let c ← scalar? least code
    some (c, after)

theorem length_le_of_tails? {count code result : Nat} {bytes rest : List UInt8}
    (found : tails? count code bytes = some (result, rest)) : rest.length ≤ bytes.length := by
  fun_induction tails? count code bytes with
  | case1 => simp_all
  | case2 _ _ _ _ ih =>
    obtain ⟨bits, _, found⟩ := Option.bind_eq_some_iff.mp found
    exact Nat.le_succ_of_le (ih bits found)
  | case3 => simp at found

theorem length_lt_of_decodeChar? {bytes rest : List UInt8} {c : Char}
    (found : decodeChar? bytes = some (c, rest)) : rest.length < bytes.length := by
  cases bytes with
  | nil => simp [decodeChar?] at found
  | cons byte after =>
    simp only [decodeChar?, Option.bind_eq_bind, Option.bind_eq_some_iff, Option.some.injEq,
      Prod.mk.injEq] at found
    obtain ⟨_, _, _, tails, _, _, _, same⟩ := found
    rw [← same]
    exact Nat.lt_succ_of_le (length_le_of_tails? tails)

def decodeAfter (done : List Symbol) : List UInt8 → List Symbol
  | [] => done.reverse
  | byte :: rest =>
    match _found : decodeChar? (byte :: rest) with
    | some (c, after) => decodeAfter (.char c :: done) after
    | none => decodeAfter (.stray byte :: done) rest
  termination_by bytes => bytes.length
  decreasing_by
    next => exact length_lt_of_decodeChar? _found
    next => exact Nat.lt_succ_self _

def decode (bytes : List UInt8) : List Symbol := decodeAfter [] bytes

theorem tail?_ofNat {bits : Nat} (small : bits < 0x40) :
    tail? (.ofNat (0x80 + bits)) = some bits := by
  have value : (UInt8.ofNat (0x80 + bits)).toNat = 0x80 + bits :=
    UInt8.toNat_ofNat_of_lt' (by simp [UInt8.size]; omega)
  simp only [tail?, value]
  rw [if_pos (by omega)]
  simp

theorem scalar?_toNat {least : Nat} {c : Char} (bound : least ≤ c.toNat) :
    scalar? least c.toNat = some c := by
  simp [scalar?, bound, Char.ofNat_toNat, show c.toNat.isValidChar from c.valid]

theorem toNat_ofNat_of_lt {n : Nat} (small : n < 0x100) : (UInt8.ofNat n).toNat = n :=
  UInt8.toNat_ofNat_of_lt' (by simpa [UInt8.size] using small)

theorem toNat_lt (c : Char) : c.toNat < 0x110000 := by
  have bounds := c.valid
  unfold UInt32.isValidChar Nat.isValidChar at bounds
  change c.val.toNat < 0x110000
  omega

theorem tails?_cons {bits : Nat} (small : bits < 0x40) (count code : Nat) (rest : List UInt8) :
    tails? (count + 1) code (.ofNat (0x80 + bits) :: rest) =
      tails? count (code * 64 + bits) rest := by
  simp only [tails?, tail?_ofNat small, Option.bind_some]

theorem lead?_ofNat {n : Nat} (small : n < 0x100) : lead? (.ofNat n) =
    if n < 0x80 then some (n, 0, 0)
    else if n < 0xc0 then none
    else if n < 0xe0 then some (n - 0xc0, 1, 0x80)
    else if n < 0xf0 then some (n - 0xe0, 2, 0x800)
    else if n < 0xf8 then some (n - 0xf0, 3, 0x10000)
    else none := by
  simp only [lead?, toNat_ofNat_of_lt small]

theorem decodeChar?_cons {byte : UInt8} {bits count least code : Nat} {bytes rest : List UInt8}
    {c : Char} (lead : lead? byte = some (bits, count, least))
    (tails : tails? count bits bytes = some (code, rest)) (scalar : scalar? least code = some c) :
    decodeChar? (byte :: bytes) = some (c, rest) := by
  simp [decodeChar?, lead, tails, scalar]

theorem decodeChar?_encodeChar_append (c : Char) (rest : List UInt8) :
    decodeChar? (encodeChar c ++ rest) = some (c, rest) := by
  have valid := toNat_lt c
  have tail (n : Nat) : n % 64 < 0x40 := Nat.mod_lt n (by omega)
  simp only [encodeChar]
  split
  next ascii =>
    have lead : lead? (.ofNat c.toNat) = some (c.toNat, 0, 0) := by
      rw [lead?_ofNat (by omega), if_pos ascii]
    exact decodeChar?_cons lead rfl (scalar?_toNat (Nat.zero_le _))
  next =>
    split
    next =>
      have lead : lead? (.ofNat (0xc0 + c.toNat / 64)) = some (c.toNat / 64, 1, 0x80) := by
        rw [lead?_ofNat (by omega)]
        grind
      refine decodeChar?_cons lead ?_ (scalar?_toNat (by omega))
      rw [List.append_eq, List.cons_append, tails?_cons (tail _),
        show c.toNat / 64 * 64 + c.toNat % 64 = c.toNat by omega]
      rfl
    next =>
      split
      next =>
        have lead : lead? (.ofNat (0xe0 + c.toNat / 4096)) = some (c.toNat / 4096, 2, 0x800) := by
          rw [lead?_ofNat (by omega)]
          grind
        refine decodeChar?_cons lead ?_ (scalar?_toNat (by omega))
        rw [List.append_eq, List.cons_append, tails?_cons (tail _), List.cons_append,
          tails?_cons (tail _),
          show (c.toNat / 4096 * 64 + c.toNat / 64 % 64) * 64 + c.toNat % 64 = c.toNat by omega]
        rfl
      next =>
        have lead : lead? (.ofNat (0xf0 + c.toNat / 262144)) =
            some (c.toNat / 262144, 3, 0x10000) := by
          rw [lead?_ofNat (by omega)]
          grind
        refine decodeChar?_cons lead ?_ (scalar?_toNat (by omega))
        rw [List.append_eq, List.cons_append, tails?_cons (tail _), List.cons_append,
          tails?_cons (tail _), List.cons_append, tails?_cons (tail _),
          show ((c.toNat / 262144 * 64 + c.toNat / 4096 % 64) * 64 + c.toNat / 64 % 64) * 64 +
            c.toNat % 64 = c.toNat by omega]
        rfl

theorem encodeChar_ne_nil (c : Char) : encodeChar c ≠ [] := by
  grind [encodeChar]

theorem decodeAfter_encode (done : List Symbol) (chars : List Char) :
    decodeAfter done (encode chars) = done.reverse ++ chars.map .char := by
  induction chars generalizing done with
  | nil => simp [encode, decodeAfter]
  | cons c rest ih =>
    have found := decodeChar?_encodeChar_append c (encode rest)
    have step : encode (c :: rest) = encodeChar c ++ encode rest := rfl
    rw [step]
    cases bytes : encodeChar c with
    | nil => exact absurd bytes (encodeChar_ne_nil c)
    | cons byte more =>
      rw [bytes, List.cons_append] at found
      rw [List.cons_append, decodeAfter]
      split
      next same =>
        rw [found] at same
        cases same
        simp [ih]
      next none => simp [found] at none

theorem decode_encode (chars : List Char) : decode (encode chars) = chars.map .char := by
  simp [decode, decodeAfter_encode]

end Utf8

def Symbol.byteCount : Symbol → Nat
  | .char c => Utf8.byteCount c
  | .stray _ => 1

def byteCount (symbols : List Symbol) : Nat :=
  symbols.foldr (fun symbol total => symbol.byteCount + total) 0

end OrdersContract.Text
