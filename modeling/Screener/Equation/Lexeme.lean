import Screener.Text.Blank
import Screener.Token.Literal
import Screener.Token.Basic

namespace Screener

inductive Lexeme.Kind
  | identifier
  | number
  | arithmetic
  | comparison
  | opening
  | closing
  | comma
  | space
  | unknown
  deriving DecidableEq

structure Lexeme where
  kind : Lexeme.Kind
  text : Text
  start : Nat
  deriving DecidableEq

namespace Lexeme

def stop (lexeme : Lexeme) : Nat := lexeme.start + lexeme.text.length

def pairKind? : Char → Text → Option Kind
  | '>', '=' :: _ | '<', '=' :: _ | '=', '=' :: _ | '!', '=' :: _ => some .comparison
  | _, _ => none

def singleKind (c : Char) : Kind :=
  if c = '(' then .opening
  else if c = ')' then .closing
  else if c = ',' then .comma
  else if c = '+' || c = '-' || c = '*' || c = '/' then .arithmetic
  else if c = '<' || c = '>' then .comparison
  else .unknown

def first (c : Char) (rest : Text) : Kind × Nat :=
  if 0 < decimalExtent (c :: rest) then (.number, decimalExtent (c :: rest))
  else if isIdentifierStart c then (.identifier, identifierExtent (c :: rest))
  else if isBlank c then (.space, Text.extent isBlank (c :: rest))
  else match pairKind? c rest with
    | some kind => (kind, 2)
    | none => (singleKind c, 1)

/-- The lexemes of a text that begins at a position, once so many characters are passed over. -/
def scan : (skip start : Nat) → Text → List Lexeme
  | _, _, [] => []
  | skip + 1, start, _ :: rest => scan skip (start + 1) rest
  | 0, start, c :: rest =>
    let (kind, length) := first c rest
    ⟨kind, (c :: rest).take length, start⟩ :: scan (length - 1) (start + 1) rest

def ofText (text : Text) : List Lexeme := scan 0 0 text

theorem scan_skip (skip start : Nat) (text : Text) :
    scan skip start text = scan 0 (start + skip) (text.drop skip) := by
  induction text generalizing skip start with
  | nil => cases skip <;> rfl
  | cons c rest ih =>
    cases skip with
    | zero => rfl
    | succ skip =>
      rw [scan, ih, List.drop_succ_cons]
      congr 1
      omega

theorem scan_cons (start : Nat) (c : Char) (rest : Text) :
    scan 0 start (c :: rest) =
      ⟨(first c rest).1, (c :: rest).take (first c rest).2, start⟩ ::
        scan ((first c rest).2 - 1) (start + 1) rest := rfl

end Lexeme

end Screener
