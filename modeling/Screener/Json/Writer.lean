import Screener.Json.Basic
import Screener.Number.Shortest

namespace Screener

namespace Json

def writtenDouble : Double.Layout where
  positionalFrom := -4
  positionalBelow := 16
  exponentDigits := 2
  notANumber := "NaN"
  infinity := "Infinity"

def unitEscape (unit : Nat) : Text := "\\u" ++ Text.hex 4 unit

def codeEscape (code : Nat) : Text :=
  if code < 0x10000 then unitEscape code
  else
    let offset := code - 0x10000
    unitEscape (0xd800 + offset / 0x400) ++ unitEscape (0xdc00 + offset % 0x400)

def encodeChar (c : Char) : Text :=
  if c = '"' then "\\\""
  else if c = '\\' then "\\\\"
  else if c = '\n' then "\\n"
  else if c = '\r' then "\\r"
  else if c = '\t' then "\\t"
  else if c = '\x08' then "\\b"
  else if c = '\x0c' then "\\f"
  else if ' ' ≤ c ∧ c ≤ '~' then [c]
  else codeEscape c.toNat

def encodeText (text : Text) : Text := "\"" ++ text.flatMap encodeChar ++ "\""

def encodeScalar : Json → Text
  | .bool true => "true"
  | .bool false => "false"
  | .int value => Text.ofInt value
  | .double value => writtenDouble.text value
  | .str text => encodeText text
  | _ => "null"

mutual

def compact : Json → Text
  | .arr items => "[" ++ Text.join ", " (compactItems items) ++ "]"
  | .obj members => "\x7b" ++ Text.join ", " (compactMembers members) ++ "\x7d"
  | .null => encodeScalar .null
  | .bool value => encodeScalar (.bool value)
  | .int value => encodeScalar (.int value)
  | .double value => encodeScalar (.double value)
  | .str text => encodeScalar (.str text)

def compactItems : List Json → List Text
  | [] => []
  | item :: rest => compact item :: compactItems rest

def compactMembers : List (Text × Json) → List Text
  | [] => []
  | (name, value) :: rest => (encodeText name ++ ": " ++ compact value) :: compactMembers rest

end

def newLine (level : Nat) : Text := '\n' :: List.replicate (2 * level) ' '

def encloseLines (level : Nat) (opening closing : Char) : List Text → Text
  | [] => [opening, closing]
  | parts =>
    [opening] ++ newLine (level + 1) ++ Text.join ([','] ++ newLine (level + 1)) parts
      ++ newLine level ++ [closing]

mutual

def indented (level : Nat) : Json → Text
  | .arr items => encloseLines level '[' ']' (indentedItems (level + 1) items)
  | .obj members => encloseLines level '\x7b' '\x7d' (indentedMembers (level + 1) members)
  | .null => encodeScalar .null
  | .bool value => encodeScalar (.bool value)
  | .int value => encodeScalar (.int value)
  | .double value => encodeScalar (.double value)
  | .str text => encodeScalar (.str text)

def indentedItems (level : Nat) : List Json → List Text
  | [] => []
  | item :: rest => indented level item :: indentedItems level rest

def indentedMembers (level : Nat) : List (Text × Json) → List Text
  | [] => []
  | (name, value) :: rest =>
    (encodeText name ++ ": " ++ indented level value) :: indentedMembers level rest

end

end Json

end Screener
