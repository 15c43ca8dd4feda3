import Screener.Text.Basic

/-!
Literals: plain decimals such as `70`, `-1.5` or `.25`, and identifiers.  An extent is the length of
the longest literal at the start of a text; a text is a literal when that is all of it.
-/

namespace Screener

/-- The zeros of all scripts: the characters of general category Nd come in runs of ten (Unicode 14). -/
def digitZeros : List Nat :=
  [0x30, 0x660, 0x6f0, 0x7c0, 0x966, 0x9e6, 0xa66, 0xae6, 0xb66, 0xbe6, 0xc66, 0xce6, 0xd66, 0xde6,
   0xe50, 0xed0, 0xf20, 0x1040, 0x1090, 0x17e0, 0x1810, 0x1946, 0x19d0, 0x1a80, 0x1a90, 0x1b50,
   0x1bb0, 0x1c40, 0x1c50, 0xa620, 0xa8d0, 0xa900, 0xa9d0, 0xa9f0, 0xaa50, 0xabf0, 0xff10, 0x104a0,
   0x10d30, 0x11066, 0x110f0, 0x11136, 0x111d0, 0x112f0, 0x11450, 0x114d0, 0x11650, 0x116c0,
   0x11730, 0x118e0, 0x11950, 0x11c50, 0x11d50, 0x11da0, 0x16a60, 0x16ac0, 0x16b50, 0x1d7ce,
   0x1d7d8, 0x1d7e2, 0x1d7ec, 0x1d7f6, 0x1e140, 0x1e2f0, 0x1e950, 0x1fbf0]

def isDigit (c : Char) : Bool :=
  if c.toNat < 0x80 then c.isDigit
  else digitZeros.any fun first => first ≤ c.toNat && c.toNat < first + 10

/-- The length of the longest unsigned decimal at the start of a text: digits with at most one point
among, before or after them, and at least one digit. -/
def decimalExtent (text : Text) : Nat :=
  let whole := Text.extent isDigit text
  match text.drop whole with
  | '.' :: rest =>
    let fraction := Text.extent isDigit rest
    if whole = 0 ∧ fraction = 0 then 0 else whole + 1 + fraction
  | _ => whole

def isUnsignedDecimal (text : Text) : Bool := text ≠ [] && decimalExtent text = text.length

def isSign (c : Char) : Bool := c = '+' || c = '-'

def isDecimal : Text → Bool
  | [] => false
  | c :: rest => if isSign c then isUnsignedDecimal rest else isUnsignedDecimal (c :: rest)

def isIdentifierStart (c : Char) : Bool := c.isAlpha || c = '_'

def isIdentifierChar (c : Char) : Bool := isIdentifierStart c || c.isDigit

def identifierExtent : Text → Nat
  | [] => 0
  | c :: rest => if isIdentifierStart c then Text.extent isIdentifierChar rest + 1 else 0

def isIdentifier (text : Text) : Bool := text ≠ [] && identifierExtent text = text.length

end Screener
