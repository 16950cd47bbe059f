import OrdersContract.Json.Token

/-!
Reading a JSON document from bytes. A reader of values takes at least one symbol, so a list of
values ends; how deep values may be nested is the reader's own bound.
-/

set_option autoImplicit false

namespace OrdersContract.Json

open Text

structure Reader where
  read : Input → Reading Value
  length_lt : ∀ {input rest : Input} {value : Value},
    read input = .ok (value, rest) → rest.length < input.length

theorem length_of_map_ok {α β : Type} {reading : Reading α} {f : α × Input → β × Input}
    {value : β} {rest : Input} {bound : Nat} (read : reading.map f = .ok (value, rest))
    (same : ∀ result, (f result).2 = result.2)
    (short : ∀ {a after}, reading = .ok (a, after) → after.length < bound) :
    rest.length < bound := by
  cases reading with
  | error fault => simp [Except.map] at read
  | ok result =>
    simp only [Except.map, Except.ok.injEq] at read
    have kept := same result
    rw [read] at kept
    simp only at kept
    rw [kept]
    exact short rfl

/-- The elements of a list after those of `done`, which stand in reverse. -/
def readItems (element : Reader) (done : List Value) (input : Input) :
    Reading (List Value) :=
  match trimmed : skipSpace input with
  | [] => faultAt .unfinishedList []
  | .char ']' :: rest => .ok (done.reverse, rest)
  | .char ',' :: rest =>
    match skipSpace rest with
    | [] => faultAt .unfinishedValue []
    -- A comma promises one more element.
    | .char ']' :: after => faultIn .trailingComma (.char ']' :: after)
    | _ =>
      match read : element.read rest with
      | .error fault => .error fault
      | .ok (value, after) =>
        have : after.length < input.length := by
          have outer := length_skipSpace_le input
          have inner := element.length_lt read
          simp only [trimmed, List.length_cons] at outer
          omega
        readItems element (value :: done) after
  | rest => faultIn .expectedListCommaOrEnd rest
  termination_by input.length

def readList (element : Reader) (input : Input) : Reading Value :=
  match skipSpace input with
  | [] => faultAt .unfinishedList []
  | .char ']' :: rest => .ok (.array [], rest)
  | _ =>
    match element.read input with
    | .error fault => .error fault
    | .ok (value, after) => (readItems element [value] after).map fun (items, rest) =>
        (.array items, rest)

def readMemberValue (element : Reader) (input : Input) : Reading Value :=
  match skipSpace input with
  | [] => faultAt .unfinishedObject []
  | .char ':' :: rest => element.read rest
  | rest => faultIn .expectedColon rest

def readMember (element : Reader) (input : Input) : Reading (String × Value) :=
  match readString none [] input with
  | .error fault => .error fault
  | .ok (key, rest) => (readMemberValue element rest).map fun (value, rest) => ((key, value), rest)

theorem length_readMemberValue_lt {element : Reader} {input rest : Input} {value : Value}
    (read : readMemberValue element input = .ok (value, rest)) : rest.length < input.length := by
  have trimmed := length_skipSpace_le input
  unfold readMemberValue at read
  split at read
  next => simp [faultAt] at read
  next after same =>
    have shorter := element.length_lt read
    simp only [same, List.length_cons] at trimmed
    omega
  next => simp [faultIn] at read

theorem length_readMember_lt {element : Reader} {input rest : Input} {member : String × Value}
    (read : readMember element input = .ok (member, rest)) : rest.length < input.length := by
  unfold readMember at read
  split at read
  next => simp at read
  next found =>
    have first := length_readString_le found
    exact length_of_map_ok read (fun _ => rfl) (by grind [→ length_readMemberValue_lt])

def readMembers (element : Reader) (done : List (String × Value)) (input : Input) :
    Reading (List (String × Value)) :=
  match trimmed : skipSpace input with
  | [] => faultAt .unfinishedObject []
  | .char '\x7d' :: rest => .ok (done, rest)
  | .char ',' :: rest =>
    match again : skipSpace rest with
    | [] => faultAt .unfinishedValue []
    | .char '"' :: key =>
      match read : readMember element key with
      | .error fault => .error fault
      | .ok ((name, value), after) =>
        have : after.length < input.length := by
          have outer := length_skipSpace_le input
          have middle := length_skipSpace_le rest
          have inner := length_readMember_lt read
          simp only [trimmed, again, List.length_cons] at outer middle
          omega
        -- A member replaces an earlier one of the same name.
        readMembers element (setMember name value done) after
    | .char '\x7d' :: after => faultIn .trailingComma (.char '\x7d' :: after)
    | after => faultIn .keyMustBeString after
  | rest => faultIn .expectedObjectCommaOrEnd rest
  termination_by input.length

def readObject (element : Reader) (input : Input) : Reading Value :=
  match skipSpace input with
  | [] => faultAt .unfinishedObject []
  | .char '\x7d' :: rest => .ok (.object [], rest)
  | .char '"' :: key =>
    match readMember element key with
    | .error fault => .error fault
    | .ok ((name, value), after) =>
      (readMembers element [(name, value)] after).map fun (members, rest) =>
        (.object members, rest)
  | rest => faultIn .keyMustBeString rest

theorem length_readItems_lt {element : Reader} {done items : List Value} {input rest : Input}
    (read : readItems element done input = .ok (items, rest)) : rest.length < input.length := by
  fun_induction readItems element done input with
  | case1 => simp [faultAt] at read
  | case2 _ input after trimmed =>
    have outer := length_skipSpace_le input
    simp only [trimmed, List.length_cons] at outer
    simp only [Except.ok.injEq, Prod.mk.injEq] at read
    rw [← read.2]
    omega
  | case3 => simp [faultAt] at read
  | case4 => simp [faultIn] at read
  | case5 => simp at read
  | case6 => grind
  | case7 => simp [faultIn] at read

theorem length_readMembers_lt {element : Reader} {done members : List (String × Value)}
    {input rest : Input} (read : readMembers element done input = .ok (members, rest)) :
    rest.length < input.length := by
  fun_induction readMembers element done input with
  | case1 => simp [faultAt] at read
  | case2 _ input after trimmed =>
    have outer := length_skipSpace_le input
    simp only [trimmed, List.length_cons] at outer
    simp only [Except.ok.injEq, Prod.mk.injEq] at read
    rw [← read.2]
    omega
  | case3 => simp [faultAt] at read
  | case4 => simp at read
  | case5 => grind
  | case6 => simp [faultIn] at read
  | case7 => simp [faultIn] at read
  | case8 => simp [faultIn] at read

theorem length_readList_lt {element : Reader} {input rest : Input} {value : Value}
    (read : readList element input = .ok (value, rest)) : rest.length < input.length := by
  have trimmed := length_skipSpace_le input
  unfold readList at read
  split at read
  next => simp [faultAt] at read
  next => grind
  next =>
    split at read
    next => simp at read
    next after first =>
      have outer := element.length_lt first
      exact length_of_map_ok read (fun _ => rfl) (by grind [→ length_readItems_lt])

theorem length_readObject_lt {element : Reader} {input rest : Input} {value : Value}
    (read : readObject element input = .ok (value, rest)) : rest.length < input.length := by
  have trimmed := length_skipSpace_le input
  unfold readObject at read
  split at read
  next => simp [faultAt] at read
  next => grind
  next key same =>
    simp only [same, List.length_cons] at trimmed
    split at read
    next => simp at read
    next after first =>
      have outer := length_readMember_lt first
      exact length_of_map_ok read (fun _ => rfl) (by grind [→ length_readMembers_lt])
  next => simp [faultIn] at read

/-- A value whose elements, if it has any, are read by `element`; none where values are nested too
deep. -/
def readValue (element : Option Reader) (input : Input) : Reading Value :=
  match skipSpace input with
  | [] => faultAt .unfinishedValue []
  | .char 'n' :: rest => (readWord ['u', 'l', 'l'] rest).map (.null, ·)
  | .char 't' :: rest => (readWord ['r', 'u', 'e'] rest).map (.bool true, ·)
  | .char 'f' :: rest => (readWord ['a', 'l', 's', 'e'] rest).map (.bool false, ·)
  | .char '-' :: rest => (readNumber true rest).map fun (n, rest) => (.number n, rest)
  | .char '"' :: rest => (readString none [] rest).map fun (s, rest) => (.string s, rest)
  | .char '[' :: rest =>
    match element with
    | none => faultIn .recursionLimitExceeded (.char '[' :: rest)
    | some element => readList element rest
  | .char '\x7b' :: rest =>
    match element with
    | none => faultIn .recursionLimitExceeded (.char '\x7b' :: rest)
    | some element => readObject element rest
  | .char c :: rest =>
    if isDigit c then (readNumber false (.char c :: rest)).map fun (n, rest) => (.number n, rest)
    else faultIn .expectedValue (.char c :: rest)
  | rest => faultIn .expectedValue rest

theorem length_readWord_lt {word : List Char} {value result : Value} {input rest : Input}
    {bound : Nat} (longer : input.length < bound)
    (read : (readWord word input).map (value, ·) = .ok (result, rest)) : rest.length < bound := by
  cases found : readWord word input with
  | error fault => simp [found, Except.map] at read
  | ok after =>
    have shorter := length_readWord_le found
    simp only [found, Except.map, Except.ok.injEq, Prod.mk.injEq] at read
    rw [← read.2]
    omega

theorem length_readValue_lt {element : Option Reader} {input rest : Input} {value : Value}
    (read : readValue element input = .ok (value, rest)) : rest.length < input.length := by
  have trimmed := length_skipSpace_le input
  unfold readValue at read
  split at read
  next => simp [faultAt] at read
  next same => exact length_readWord_lt (by grind) read
  next same => exact length_readWord_lt (by grind) read
  next same => exact length_readWord_lt (by grind) read
  next => exact length_of_map_ok read (fun _ => rfl) (by grind [→ length_readNumber_lt])
  next => exact length_of_map_ok read (fun _ => rfl) (by grind [→ length_readString_le])
  next =>
    split at read
    next => simp [faultIn] at read
    next => grind [→ length_readList_lt]
  next =>
    split at read
    next => simp [faultIn] at read
    next => grind [→ length_readObject_lt]
  next =>
    split at read
    next => exact length_of_map_ok read (fun _ => rfl) (by grind [→ length_readNumber_lt])
    next => simp [faultIn] at read
  next => simp [faultIn] at read

def Reader.ofElement (element : Option Reader) : Reader :=
  ⟨readValue element, length_readValue_lt⟩

def Reader.ofDepth : Nat → Reader
  | 0 => .ofElement none
  | depth + 1 => .ofElement (some (ofDepth depth))

def depthLimit : Nat := 127

def readDocument (input : Input) : Except Fault Value :=
  match (Reader.ofDepth depthLimit).read input with
  | .error fault => .error fault
  | .ok (value, rest) =>
    match skipSpace rest with
    | [] => .ok value
    | rest => faultIn .trailingCharacters rest

def parse (bytes : List UInt8) : Except ReadError Value :=
  (readDocument (Utf8.decode bytes)).mapError (·.locate bytes)

end OrdersContract.Json
