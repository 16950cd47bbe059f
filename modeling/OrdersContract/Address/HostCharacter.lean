import OrdersContract.Address.HostExpansion
import OrdersContract.Address.HostImage
import OrdersContract.Text.CodeRange
import OrdersContract.Text.Composed
import OrdersContract.Text.Printable

set_option autoImplicit false

namespace OrdersContract.Address

open Text

inductive HostCharacter
  | stays
  | becomes (chars : List Char)
  | vanishes
  | refused
  deriving DecidableEq

def vanishingRanges : CodeRanges where
  ranges :=
    [(0xad, 0xad), (0x34f, 0x34f), (0x115f, 0x1160), (0x17b4, 0x17b5), (0x180b, 0x180f),
      (0x200b, 0x200b), (0x2060, 0x2064), (0x206a, 0x206f), (0x3164, 0x3164), (0xfe00, 0xfe0f),
      (0xfeff, 0xfeff), (0xffa0, 0xffa0), (0x1bca0, 0x1bca3), (0x1d173, 0x1d17a),
      (0xe0100, 0xe01ef)]

def refusedRanges : CodeRanges where
  ranges :=
    [(0x2024, 0x2026), (0x2488, 0x249b), (0x2ff0, 0x2fff), (0x31ef, 0x31ef), (0x33c2, 0x33c2),
      (0x33c7, 0x33c7), (0x33d8, 0x33d8), (0xfe12, 0xfe12), (0xfe19, 0xfe19), (0xfe30, 0xfe30),
      (0xfe52, 0xfe52), (0xfffc, 0xfffd), (0x1f100, 0x1f100)]

/-- Hidden characters that a name may hold: the joiners, and characters of version 18 of the
character set. Quoted texts show characters up to version 17. -/
def admittedRanges : CodeRanges where
  ranges :=
    [(0x5c8, 0x5c9), (0x1ade, 0x1adf), (0x1aec, 0x1af0), (0x200c, 0x200d), (0x208f, 0x208f),
      (0x20c2, 0x20c4), (0x2e60, 0x2e63), (0xa7dd, 0xa7dd), (0x107bb, 0x107be), (0x10ec9, 0x10ecf),
      (0x10ed9, 0x10eee), (0x10ef3, 0x10ef9), (0x11b0a, 0x11b0a), (0x11df1, 0x11df1),
      (0x1246f, 0x1246f), (0x12550, 0x12686), (0x16d80, 0x16d9d), (0x16da0, 0x16da9),
      (0x18cd6, 0x18cda), (0x18e00, 0x19191), (0x191a0, 0x191d2), (0x1b127, 0x1b128),
      (0x1b168, 0x1b168), (0x1ced2, 0x1ced4), (0x1cedd, 0x1cedf), (0x1cefd, 0x1ceff),
      (0x1d127, 0x1d128), (0x1d1eb, 0x1d1ff), (0x1d250, 0x1d280), (0x1db00, 0x1db1c),
      (0x1df1f, 0x1df24), (0x1df2b, 0x1df94), (0x1df96, 0x1dfcc), (0x1dff3, 0x1dfff),
      (0x1f1ae, 0x1f1ae), (0x1f6d9, 0x1f6d9), (0x1f7da, 0x1f7db), (0x1f7f1, 0x1f7ff),
      (0x1fa8b, 0x1fa8d), (0x1facc, 0x1facc), (0x1fadd, 0x1fadd), (0x1faeb, 0x1faeb),
      (0x1faf9, 0x1fafa), (0x2b81e, 0x2b81f), (0x3d000, 0x3fc3f)]

def isJoiner (c : Char) : Bool := c = '\u200c' || c = '\u200d'

def isRefused (c : Char) : Bool :=
  inRanges refusedRanges c || (isHidden c && !inRanges admittedRanges c)

def hostCharacter (c : Char) : HostCharacter :=
  if c.toNat < 0x80 then
    if c.isUpper then .becomes [c.toLower] else .stays
  else if inRanges vanishingRanges c then .vanishes
  else
    match hostImage? c with
    | some image => .becomes [image]
    | none =>
      match hostExpansion? c with
      | some chars => .becomes chars
      | none => if isRefused c then .refused else .stays

def hostChars? (c : Char) : Option (List Char) :=
  match hostCharacter c with
  | .stays => some [c]
  | .becomes chars => some chars
  | .vanishes => some []
  | .refused => none

def hostText? (chars : List Char) : Option (List Char) :=
  (chars.mapM hostChars?).map fun images => composed images.flatten

example : hostText? ['B', 'Ü', 'c', '\u00ad', 'ｈ'] = some ['b', 'ü', 'c', 'h'] := by decide +kernel

end OrdersContract.Address
