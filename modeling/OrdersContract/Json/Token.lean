import OrdersContract.Json.Fault
import OrdersContract.Json.Value
import OrdersContract.Text.Digits
import OrdersContract.Text.Utf8

set_option autoImplicit false

namespace OrdersContract.Json

open Text Number

abbrev Input := List Symbol

abbrev Reading (α : Type) := Except Fault (α × Input)

def faultAt {α : Type} (cause : Cause) (input : Input) : Except Fault α :=
  .error ⟨cause, byteCount input⟩

/-- A fault at the first byte of `input`, or at its end. -/
def faultIn {α : Type} (cause : Cause) (input : Input) : Except Fault α :=
  .error ⟨cause, byteCount input - 1⟩

def isSpace : Symbol → Bool
  | .char c => c == ' ' || c == '\n' || c == '\t' || c == '\r'
  | .stray _ => false

def skipSpace (input : Input) : Input := input.dropWhile isSpace

theorem length_skipSpace_le (input : Input) : (skipSpace input).length ≤ input.length :=
  (List.dropWhile_suffix isSpace).length_le

def readWord : List Char → Input → Except Fault Input
  | [], input => .ok input
  | _ :: _, [] => faultAt .unfinishedValue []
  | c :: word, symbol :: rest =>
    if symbol = .char c then readWord word rest else faultIn .expectedIdent (symbol :: rest)

theorem length_readWord_le {word : List Char} {input rest : Input}
    (done : readWord word input = .ok rest) : rest.length ≤ input.length := by
  fun_induction readWord word input with
  | case1 => simp_all
  | case2 => simp [faultAt] at done
  | case3 => grind
  | case4 => simp [faultIn] at done

def takeDigits (done : List Nat) : Input → List Nat × Input
  | .char c :: rest =>
    match digitValue? c with
    | some digit => takeDigits (digit :: done) rest
    | none => (done.reverse, .char c :: rest)
  | input => (done.reverse, input)

theorem length_takeDigits_le (done : List Nat) (input : Input) :
    (takeDigits done input).2.length ≤ input.length := by
  fun_induction takeDigits done input with
  | case1 done c rest digit found ih => simpa using Nat.le_succ_of_le ih
  | case2 => simp
  | case3 => simp

/-- Appends digits to a number while it does not exceed `limit`, and leaves the others. -/
def absorb (limit value : Nat) : List Nat → Nat × List Nat
  | [] => (value, [])
  | digit :: rest =>
    if value * 10 + digit ≤ limit then absorb limit (value * 10 + digit) rest
    else (value, digit :: rest)

def largestSignificand : Nat := 0xffffffffffffffff
def largestExponent : Nat := 0x7fffffff

def finishDouble (negative : Bool) (significand : Nat) (exponent : Int) (rest : Input) :
    Reading Numeric :=
  match Double.scaled? significand exponent with
  | some magnitude => .ok (.double ⟨negative, magnitude⟩, rest)
  | none => faultAt .numberOutOfRange rest

def readExponent (negative : Bool) (significand : Nat) (exponent : Int) (input : Input) :
    Reading Numeric :=
  let (down, unsigned) : Bool × Input :=
    match input with
    | .char '+' :: rest => (false, rest)
    | .char '-' :: rest => (true, rest)
    | rest => (false, rest)
  match takeDigits [] unsigned with
  | ([], []) => faultAt .unfinishedValue []
  | ([], rest) => faultIn .invalidNumber rest
  | (digits, rest) =>
    match absorb largestExponent 0 digits with
    | (value, []) =>
      finishDouble negative significand (exponent + if down then -(value : Int) else value) rest
    | (_, _ :: extra) =>
      -- Too far down is zero; too far up is a number for zero alone.
      if significand ≠ 0 ∧ !down then .error ⟨.numberOutOfRange, byteCount rest + extra.length⟩
      else .ok (.double ⟨negative, 0⟩, rest)

def readScale (negative : Bool) (significand : Nat) (exponent : Int) (input : Input) :
    Reading Numeric :=
  match input with
  | .char 'e' :: rest => readExponent negative significand exponent rest
  | .char 'E' :: rest => readExponent negative significand exponent rest
  | rest => finishDouble negative significand exponent rest

/-- What follows the point of a number: at least one digit. Digits that the significand cannot
take are dropped. -/
def readFraction (negative : Bool) (significand : Nat) (exponent : Int) (input : Input) :
    Reading Numeric :=
  match takeDigits [] input with
  | ([], []) => faultAt .unfinishedValue []
  | ([], rest) => faultIn .invalidNumber rest
  | (digits, rest) =>
    let (significand, dropped) := absorb largestSignificand significand digits
    readScale negative significand (exponent - (digits.length - dropped.length : Nat)) rest

-- An integer that fits a word stays one; negative zero does not.
def finishInteger (negative : Bool) (significand : Nat) (rest : Input) : Reading Numeric :=
  let exact := if negative then -(significand : Int) else significand
  match Integer.ofInt? exact with
  | some n =>
    if negative ∧ significand = 0 then .ok (.double ⟨true, 0⟩, rest) else .ok (.integer n, rest)
  | none => .ok (.double ⟨negative, (Double.ofNat significand).magnitude⟩, rest)

def readNumber (negative : Bool) (input : Input) : Reading Numeric :=
  match takeDigits [] input with
  | ([], []) => faultAt .unfinishedValue []
  | ([], rest) => faultIn .invalidNumber rest
  -- No digit follows a zero in front.
  | (0 :: _ :: digits, rest) =>
    .error ⟨.invalidNumber, byteCount rest + digits.length⟩
  | (digits, rest) =>
    let (significand, extra) := absorb largestSignificand 0 digits
    match rest, extra with
    | .char '.' :: rest, _ => readFraction negative significand extra.length rest
    | .char 'e' :: rest, _ => readExponent negative significand extra.length rest
    | .char 'E' :: rest, _ => readExponent negative significand extra.length rest
    | rest, [] => finishInteger negative significand rest
    | rest, _ :: _ => finishDouble negative significand extra.length rest

def isHighSurrogate (code : Nat) : Bool := 0xd800 ≤ code && code < 0xdc00
def isLowSurrogate (code : Nat) : Bool := 0xdc00 ≤ code && code < 0xe000

/-- Four hexadecimal digits. They are counted in bytes: a wider character among the first four
bytes is no digit. -/
def readHex (input : Input) : Reading Nat :=
  if byteCount input < 4 then faultAt .unfinishedString []
  else
    match input with
    | .char a :: .char b :: .char c :: .char d :: rest =>
      match hexDigitValue? a, hexDigitValue? b, hexDigitValue? c, hexDigitValue? d with
      | some a, some b, some c, some d => .ok (numeral 16 [a, b, c, d], rest)
      | _, _, _, _ => .error ⟨.invalidEscape, byteCount input - 4⟩
    | _ => .error ⟨.invalidEscape, byteCount input - 4⟩

def readLowSurrogate (high : Nat) (input : Input) : Reading Char :=
  match input with
  | [] => faultAt .unfinishedString []
  | .char '\\' :: [] => faultAt .unfinishedString []
  | .char '\\' :: .char 'u' :: rest =>
    match readHex rest with
    | .error fault => .error fault
    | .ok (low, rest) =>
      if isLowSurrogate low then
        .ok (.ofNat (0x10000 + (high - 0xd800) * 0x400 + (low - 0xdc00)), rest)
      else faultAt .loneSurrogate rest
  | .char '\\' :: rest => faultIn .unexpectedEndOfHexEscape rest
  | rest => faultIn .unexpectedEndOfHexEscape rest

def readEscape (input : Input) : Reading Char :=
  match input with
  | [] => faultAt .unfinishedString []
  | .char '"' :: rest => .ok ('"', rest)
  | .char '\\' :: rest => .ok ('\\', rest)
  | .char '/' :: rest => .ok ('/', rest)
  | .char 'b' :: rest => .ok ('\x08', rest)
  | .char 'f' :: rest => .ok ('\x0c', rest)
  | .char 'n' :: rest => .ok ('\n', rest)
  | .char 'r' :: rest => .ok ('\r', rest)
  | .char 't' :: rest => .ok ('\t', rest)
  | .char 'u' :: rest =>
    match readHex rest with
    | .error fault => .error fault
    | .ok (code, rest) =>
      if isLowSurrogate code then faultAt .loneSurrogate rest
      else if isHighSurrogate code then readLowSurrogate code rest
      else .ok (.ofNat code, rest)
  | rest => faultIn .invalidEscape rest

theorem length_readHex_le {input rest : Input} {code : Nat}
    (done : readHex input = .ok (code, rest)) : rest.length ≤ input.length := by
  unfold readHex at done
  grind [faultAt]

theorem length_readLowSurrogate_le {high : Nat} {input rest : Input} {c : Char}
    (done : readLowSurrogate high input = .ok (c, rest)) : rest.length ≤ input.length := by
  unfold readLowSurrogate at done
  grind [faultAt, faultIn, → length_readHex_le]

theorem length_readEscape_le {input rest : Input} {c : Char}
    (done : readEscape input = .ok (c, rest)) : rest.length ≤ input.length := by
  unfold readEscape at done
  grind [faultAt, faultIn, → length_readHex_le, → length_readLowSurrogate_le]

/-- The rest of a string after its opening quote, behind the characters of `done`, which stand in
reverse. `damage` counts the bytes of the text from the first one outside UTF-8 on. -/
def readString (damage : Option Nat) (done : List Char) : Input → Reading String
  | [] => faultAt .unfinishedString []
  | .char '"' :: rest =>
    -- Bytes outside UTF-8 are told at the end, so any other fault of the string comes first. The
    -- place is counted back from the end by the length of the text, not of its escapes.
    match damage with
    | some length => .error ⟨.invalidCodePoint, byteCount rest + length⟩
    | none => .ok (.ofList done.reverse, rest)
  | .char '\\' :: rest =>
    match escape : readEscape rest with
    | .error fault => .error fault
    | .ok (c, after) =>
      have := length_readEscape_le escape
      readString (damage.map (· + Utf8.byteCount c)) (c :: done) after
  | .char c :: rest =>
    if c.toNat < 0x20 then faultAt .controlCharacter rest
    else readString (damage.map (· + Utf8.byteCount c)) (c :: done) rest
  | .stray _ :: rest => readString (some (damage.getD 0 + 1)) done rest
  termination_by input => input.length

theorem length_readString_le {damage : Option Nat} {done : List Char} {input rest : Input}
    {text : String} (read : readString damage done input = .ok (text, rest)) :
    rest.length ≤ input.length := by
  fun_induction readString damage done input <;>
    grind [faultAt, → length_readEscape_le]

theorem length_finishDouble_le {negative : Bool} {significand : Nat} {exponent : Int}
    {input rest : Input} {n : Numeric}
    (read : finishDouble negative significand exponent input = .ok (n, rest)) :
    rest.length ≤ input.length := by
  grind [finishDouble, faultAt]

theorem length_readExponent_le {negative : Bool} {significand : Nat} {exponent : Int}
    {input rest : Input} {n : Numeric}
    (read : readExponent negative significand exponent input = .ok (n, rest)) :
    rest.length ≤ input.length := by
  have plus := length_takeDigits_le [] input
  unfold readExponent at read
  grind [faultAt, faultIn, length_takeDigits_le, → length_finishDouble_le]

theorem length_readScale_le {negative : Bool} {significand : Nat} {exponent : Int}
    {input rest : Input} {n : Numeric}
    (read : readScale negative significand exponent input = .ok (n, rest)) :
    rest.length ≤ input.length := by
  unfold readScale at read
  grind [→ length_readExponent_le, → length_finishDouble_le]

theorem length_readFraction_le {negative : Bool} {significand : Nat} {exponent : Int}
    {input rest : Input} {n : Numeric}
    (read : readFraction negative significand exponent input = .ok (n, rest)) :
    rest.length ≤ input.length := by
  have taken := length_takeDigits_le [] input
  unfold readFraction at read
  grind [faultAt, faultIn, → length_readScale_le]

theorem length_takeDigits_lt {input rest : Input} {digit : Nat} {digits : List Nat}
    (taken : takeDigits [] input = (digit :: digits, rest)) : rest.length < input.length := by
  unfold takeDigits at taken
  split at taken
  next c after =>
    split at taken
    next value found =>
      have shorter := length_takeDigits_le [value] after
      rw [taken] at shorter
      simpa using Nat.lt_succ_of_le shorter
    next => simp at taken
  next => simp at taken

theorem length_readNumber_lt {negative : Bool} {input rest : Input} {n : Numeric}
    (read : readNumber negative input = .ok (n, rest)) : rest.length < input.length := by
  unfold readNumber at read
  split at read
  next => simp [faultAt] at read
  next => simp [faultIn] at read
  next => simp at read
  next digits after _ _ _ taken =>
    have shorter : after.length < input.length := by
      cases digits with
      | nil => simp_all
      | cons => exact length_takeDigits_lt taken
    grind [finishInteger, → length_readFraction_le, → length_readExponent_le,
      → length_finishDouble_le]

end OrdersContract.Json
