import OrdersContract.Text.CombiningClass
import OrdersContract.Text.Composition

/-!
Canonical composition, the normal form NFC: characters are divided as far as they can be, marks are
put in the order of their classes, and what has one character together is composed again. Main
statement: the marks of a text in canonical order stand in the order of their classes.
-/

set_option autoImplicit false

namespace OrdersContract.Text

def partsTo : Nat → Char → List Char
  | 0, c => [c]
  | depth + 1, c =>
    match divide? c with
    | some (first, second) => partsTo depth first ++ [second]
    | none => [c]

/-- No character has more than three marks, and no mark is divided. -/
def parts (c : Char) : List Char := partsTo 3 c

/-- Puts a character in front of a text in canonical order, behind the marks that come before it. -/
def settle (c : Char) : List Char → List Char
  | [] => [c]
  | next :: rest =>
    if 0 < combiningClass next ∧ combiningClass next < combiningClass c then
      next :: settle c rest
    else c :: next :: rest

def inCanonicalOrder (chars : List Char) : List Char := chars.foldr settle []

/-- Composes characters with `starter`; `passed` are the marks after it so far, from the last. A
mark of the same class as the one before it is kept from the starter. -/
def composeInto (starter : Char) (passed : List Char) : List Char → List Char
  | [] => starter :: passed.reverse
  | c :: rest =>
    let isNear := passed.head?.all fun last => combiningClass last < combiningClass c
    match if isNear then compose? starter c else none with
    | some whole => composeInto whole passed rest
    | none =>
      if combiningClass c = 0 then starter :: passed.reverse ++ composeInto c [] rest
      else composeInto starter (c :: passed) rest

def composeAll : List Char → List Char
  | [] => []
  | c :: rest => if combiningClass c = 0 then composeInto c [] rest else c :: composeAll rest

def composed (chars : List Char) : List Char :=
  composeAll (inCanonicalOrder (chars.flatMap parts))

def Ordered : List Char → Prop
  | first :: second :: rest =>
    (0 < combiningClass second → combiningClass first ≤ combiningClass second) ∧
      Ordered (second :: rest)
  | _ => True

theorem ordered_settle (c : Char) {chars : List Char} (ordered : Ordered chars) :
    Ordered (settle c chars) := by
  induction chars with
  | nil => simp [settle, Ordered]
  | cons next rest ih =>
    simp only [settle]
    split
    next passes =>
      cases rest with
      | nil => simp [settle, Ordered, Nat.le_of_lt passes.2]
      | cons third others =>
        have settled := ih ordered.2
        simp only [settle] at settled ⊢
        split at settled
        next farther =>
          rw [if_pos farther]
          exact ⟨ordered.1, settled⟩
        next nearer =>
          rw [if_neg nearer]
          exact ⟨fun _ => Nat.le_of_lt passes.2, settled⟩
    next stays => exact ⟨by omega, ordered⟩

theorem ordered_inCanonicalOrder (chars : List Char) : Ordered (inCanonicalOrder chars) := by
  induction chars with
  | nil => simp [inCanonicalOrder, Ordered]
  | cons c rest ih => exact ordered_settle c ih

example : composed ['e', '\u0301'] = ['é'] := by decide +kernel
example : composed ['a', '\u0301', '\u0323'] = ['ạ', '\u0301'] := by decide +kernel
example : composed ['\u1112', '\u1161', '\u11ab'] = ['한'] := by decide +kernel

end OrdersContract.Text
