import Screener.Text.Basic

namespace Screener

structure Span where
  start : Nat
  stop : Nat
  style : Text
  deriving DecidableEq

structure StyledText where
  text : Text
  style : Text
  spans : List Span
  deriving DecidableEq

namespace StyledText

/-- The bell, the backspace and the vertical controls, which would move the cursor. -/
def isCursorControl (c : Char) : Bool :=
  c = '\x07' || c = '\x08' || c = '\x0b' || c = '\x0c' || c = '\r'

def shownPart (text : Text) : Text := text.filter (!isCursorControl ·)

def empty : StyledText := ⟨[], [], []⟩

def styled (text style : Text) : StyledText := ⟨shownPart text, style, []⟩

def append (whole : StyledText) (piece style : Text) : StyledText :=
  let start := whole.text.length
  let shown := shownPart piece
  let span := if piece.isEmpty || style.isEmpty then [] else [⟨start, start + shown.length, style⟩]
  ⟨whole.text ++ shown, whole.style, whole.spans ++ span⟩

end StyledText

inductive Justify
  | left
  | right
  deriving DecidableEq

structure Column where
  header : Text
  style : Text
  justify : Justify
  deriving DecidableEq

inductive Cell
  | plain (text : Text)
  | styled (text : StyledText)
  deriving DecidableEq

structure Table where
  title : Text
  columns : List Column
  rows : List (List Cell)
  deriving DecidableEq

inductive Output
  | markup (text : Text)
  | text (text : StyledText)
  | table (table : Table)
  | panel (title : Text) (body : StyledText)
  deriving DecidableEq

def column (header : Text) (style : Text) : Column := ⟨header, style, .left⟩

def numberColumn : Column := ⟨"#", "dim", .right⟩

end Screener
