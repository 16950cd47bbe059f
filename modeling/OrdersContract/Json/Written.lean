import OrdersContract.Json.Value
import OrdersContract.Number.Shortest

set_option autoImplicit false

namespace OrdersContract.Json

open Text

def escapedChar (c : Char) : List Char :=
  if c = '"' then ['\\', '"']
  else if c = '\\' then ['\\', '\\']
  else if c = '\x08' then ['\\', 'b']
  else if c = '\x0c' then ['\\', 'f']
  else if c = '\n' then ['\\', 'n']
  else if c = '\r' then ['\\', 'r']
  else if c = '\t' then ['\\', 't']
  else if c.toNat < 0x20 then
    ['\\', 'u', '0', '0', digitChar (c.toNat / 16), digitChar (c.toNat % 16)]
  else [c]

def quotedChars (text : String) : List Char :=
  '"' :: (text.toList.flatMap escapedChar ++ ['"'])

def Integer.chars (n : Integer) : List Char :=
  if n.val < 0 then '-' :: decimal n.val.natAbs else decimal n.val.natAbs

def Numeric.chars : Numeric → List Char
  | .integer n => n.chars
  | .double d => d.chars

def boolChars (b : Bool) : List Char :=
  if b then ['t', 'r', 'u', 'e'] else ['f', 'a', 'l', 's', 'e']

def nullChars : List Char := ['n', 'u', 'l', 'l']

def separated (separator : List Char) : List (List Char) → List Char
  | [] => []
  | first :: rest => first ++ rest.flatMap (separator ++ ·)

namespace Value

mutual

def chars : Value → List Char
  | .null => nullChars
  | .bool b => boolChars b
  | .number n => n.chars
  | .string s => quotedChars s
  | .array items => '[' :: (separated [','] (charsOfItems items) ++ [']'])
  | .object members => '\x7b' :: (separated [','] (charsOfMembers members) ++ ['\x7d'])
  termination_by structural value => value

def charsOfItems : List Value → List (List Char)
  | [] => []
  | item :: rest => item.chars :: charsOfItems rest
  termination_by structural items => items

def charsOfMembers : List (String × Value) → List (List Char)
  | [] => []
  | member :: rest => charsOfMember member :: charsOfMembers rest
  termination_by structural members => members

def charsOfMember : String × Value → List Char
  | (key, value) => quotedChars key ++ ':' :: value.chars
  termination_by structural member => member

end

theorem charsOfItems_eq_map (items : List Value) : charsOfItems items = items.map chars := by
  induction items with
  | nil => rfl
  | cons item rest ih => simp [charsOfItems, ih]

theorem charsOfMembers_eq_map (members : List (String × Value)) :
    charsOfMembers members = members.map fun member =>
      quotedChars member.1 ++ ':' :: member.2.chars := by
  induction members with
  | nil => rfl
  | cons member rest ih =>
    obtain ⟨key, value⟩ := member
    simp [charsOfMembers, charsOfMember, ih]

def text (value : Value) : String := .ofList value.chars

def lineBreak (level : Nat) : List Char := '\n' :: List.replicate (2 * level) ' '

def block (opening closing : Char) (level : Nat) (elements : List (List Char)) : List Char :=
  if elements.isEmpty then [opening, closing]
  else
    opening :: (lineBreak (level + 1) ++ separated (',' :: lineBreak (level + 1)) elements ++
      lineBreak level ++ [closing])

mutual

def indented (level : Nat) : Value → List Char
  | .null => nullChars
  | .bool b => boolChars b
  | .number n => n.chars
  | .string s => quotedChars s
  | .array items => block '[' ']' level (indentedItems (level + 1) items)
  | .object members => block '\x7b' '\x7d' level (indentedMembers (level + 1) members)
  termination_by structural value => value

def indentedItems (level : Nat) : List Value → List (List Char)
  | [] => []
  | item :: rest => item.indented level :: indentedItems level rest
  termination_by structural items => items

def indentedMembers (level : Nat) : List (String × Value) → List (List Char)
  | [] => []
  | member :: rest => indentedMember level member :: indentedMembers level rest
  termination_by structural members => members

def indentedMember (level : Nat) : String × Value → List Char
  | (key, value) => quotedChars key ++ ':' :: ' ' :: value.indented level
  termination_by structural member => member

end

theorem indentedItems_eq_map (level : Nat) (items : List Value) :
    indentedItems level items = items.map (indented level) := by
  induction items with
  | nil => rfl
  | cons item rest ih => simp [indentedItems, ih]

theorem indentedMembers_eq_map (level : Nat) (members : List (String × Value)) :
    indentedMembers level members = members.map (indentedMember level) := by
  induction members with
  | nil => rfl
  | cons member rest ih => simp [indentedMembers, ih]

def indentedText (value : Value) : String := .ofList (value.indented 0)

end Value

end OrdersContract.Json
