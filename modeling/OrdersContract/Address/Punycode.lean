import OrdersContract.Text.Digits

/-!
Punycode: a text as ASCII. Its ASCII characters come first; what follows says, in numbers of
variable length, where the others go in.
-/

set_option autoImplicit false

namespace OrdersContract.Address.Punycode

def base : Nat := 36
def firstCode : Nat := 0x80
def firstBias : Nat := 72

def threshold (k bias : Nat) : Nat :=
  if k ≤ bias + 1 then 1 else if bias + 26 ≤ k then 26 else k - bias

/-- Brings a delta down to the size of one digit; counts the divisions by 35 in steps of 36. -/
def descend (delta steps : Nat) : Nat × Nat :=
  if delta ≤ 455 then (delta, steps) else descend (delta / 35) (steps + base)
  termination_by delta
  decreasing_by omega

def nextBias (delta count : Nat) (isFirst : Bool) : Nat :=
  let delta := if isFirst then delta / 700 else delta / 2
  let (small, steps) := descend (delta + delta / count) 0
  steps + 36 * small / (small + 38)

def digitChar (digit : Nat) : Char :=
  if digit < 26 then .ofNat ('a'.toNat + digit) else .ofNat ('0'.toNat + (digit - 26))

def digitValue? (c : Char) : Option Nat :=
  if 'a' ≤ c ∧ c ≤ 'z' then some (c.toNat - 'a'.toNat)
  else if 'A' ≤ c ∧ c ≤ 'Z' then some (c.toNat - 'A'.toNat)
  else if '0' ≤ c ∧ c ≤ '9' then some (c.toNat - '0'.toNat + 26)
  else none

theorem threshold_bounds (k bias : Nat) : 1 ≤ threshold k bias ∧ threshold k bias ≤ 26 := by
  grind [threshold]

def number (q k bias : Nat) : List Char :=
  let t := threshold k bias
  if q < t then [digitChar q]
  else digitChar (t + (q - t) % (base - t)) :: number ((q - t) / (base - t)) (k + base) bias
  termination_by q
  decreasing_by
    have bounds := threshold_bounds k bias
    exact Nat.lt_of_le_of_lt (Nat.div_le_self _ _) (by omega)

structure State where
  delta : Nat
  bias : Nat
  handled : Nat

/-- Passes once over the text for one code point and writes a number at each place where it
stands. -/
def pass (basicCount code : Nat) (state : State) : List Nat → State × List Char
  | [] => (state, [])
  | c :: rest =>
    if c < code then pass basicCount code { state with delta := state.delta + 1 } rest
    else if c = code then
      let digits := number state.delta base state.bias
      let bias := nextBias state.delta (state.handled + 1) (state.handled == basicCount)
      let (final, more) := pass basicCount code ⟨0, bias, state.handled + 1⟩ rest
      (final, digits ++ more)
    else pass basicCount code state rest

def passes (basicCount : Nat) (text : List Nat) (state : State) (reached : Nat) :
    List Nat → List Char
  | [] => []
  | code :: codes =>
    let state := { state with delta := state.delta + (code - reached) * (state.handled + 1) }
    let (state, digits) := pass basicCount code state text
    digits ++ passes basicCount text { state with delta := state.delta + 1 } (code + 1) codes

def encode (chars : List Char) : List Char :=
  let basic := chars.filter (·.toNat < firstCode)
  let text := chars.map Char.toNat
  let codes := (text.filter (firstCode ≤ ·)).eraseDups.mergeSort
  let state : State := ⟨0, firstBias, basic.length⟩
  (if basic.isEmpty then [] else basic ++ ['-']) ++
    passes basic.length text state firstCode codes

def limit : Nat := 0x100000000

def readNumber (bias : Nat) (value weight k : Nat) : List Char → Option (Nat × List Char)
  | [] => none
  | c :: rest => do
    let digit ← digitValue? c
    let t := threshold k bias
    let value := value + digit * weight
    if limit ≤ value then none
    else if digit < t then some (value, rest)
    else if limit ≤ weight * (base - t) then none
    else readNumber bias value (weight * (base - t)) (k + base) rest

theorem length_readNumber_lt {bias value weight k : Nat} {chars rest : List Char} {result : Nat}
    (read : readNumber bias value weight k chars = some (result, rest)) :
    rest.length < chars.length := by
  induction chars generalizing value weight k with
  | nil => simp [readNumber] at read
  | cons c after ih =>
    simp only [readNumber, Option.bind_eq_bind, Option.bind_eq_some_iff] at read
    obtain ⟨digit, _, read⟩ := read
    split at read
    next => simp at read
    next =>
      split at read
      next => simp_all
      next =>
        split at read
        next => simp at read
        next => exact Nat.lt_succ_of_lt (ih read)

def insertAll (done : List Char) (code index bias : Nat) (chars : List Char) :
    Option (List Char) :=
  match chars with
  | [] => some done
  | c :: rest =>
    match read : readNumber bias index 1 base (c :: rest) with
    | none => none
    | some (total, after) =>
      have := length_readNumber_lt read
      let count := done.length + 1
      let code := code + total / count
      let place := total % count
      if 0x10ffff < code ∨ ¬ code.isValidChar then none
      else
        insertAll (done.take place ++ Char.ofNat code :: done.drop place) code (place + 1)
          (nextBias (total - index) count (index == 0)) after
  termination_by chars.length
  decreasing_by exact this

/-- The text before the last hyphen, and the text after it; none where nothing is before it. -/
def splitBasic (chars : List Char) : Option (List Char × List Char) :=
  if chars.contains '-' then
    let tail := (chars.reverse.takeWhile (· != '-')).reverse
    let basic := chars.take (chars.length - tail.length - 1)
    if basic.isEmpty then none else some (basic, tail)
  else some ([], chars)

def decode? (chars : List Char) : Option (List Char) :=
  (splitBasic chars).bind fun (basic, numbers) => insertAll basic firstCode 0 firstBias numbers

example : encode ['b', 'ü', 'c', 'h', 'e', 'r'] = "bcher-kva".toList := by decide +kernel
example : decode? "bcher-kva".toList = some ['b', 'ü', 'c', 'h', 'e', 'r'] := by decide +kernel

end OrdersContract.Address.Punycode
