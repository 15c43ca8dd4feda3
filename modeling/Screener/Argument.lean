import Screener.Json.Basic
import Screener.Number.Shortest
import Screener.Text.Printable

namespace Screener

inductive Argument.Unwritten
  | longNumber
  | tooDeep
  deriving DecidableEq

def Argument.Unwritten.message : Argument.Unwritten → Text
  | .longNumber =>
    "Exceeds the limit (4300 digits) for integer string conversion; use sys.set_int_max_str_digits() to increase the limit"
  | .tooDeep => "maximum recursion depth exceeded while getting the repr of an object"

inductive Argument
  | null
  | bool (value : Bool)
  | str (text : Text)
  /-- Any other value, by what comes of writing it. -/
  | other (written : Except Argument.Unwritten Text)

namespace Argument

def text : Argument → Except Unwritten Text
  | .null => .ok "None"
  | .bool true => .ok "True"
  | .bool false => .ok "False"
  | .str text => .ok text
  | .other written => written

end Argument

namespace Json

/-- Doubles from `1e-04` up to `1e+16` are positional; an exponent has at least two digits. -/
def shownDouble : Double.Layout where
  positionalFrom := -4
  positionalBelow := 16
  exponentDigits := 2
  notANumber := "nan"
  infinity := "inf"

mutual

def shown? : Json → Option Text
  | .null => some "None"
  | .bool true => some "True"
  | .bool false => some "False"
  | .int value => Text.ofInt? value
  | .double value => some (shownDouble.text value)
  | .str text => some (Text.quoted text)
  | .arr items => do return "[" ++ Text.join ", " (← shownItems? items) ++ "]"
  | .obj members => do return "\x7b" ++ Text.join ", " (← shownMembers? members) ++ "\x7d"

def shownItems? : List Json → Option (List Text)
  | [] => some []
  | item :: rest => do return (← shown? item) :: (← shownItems? rest)

def shownMembers? : List (Text × Json) → Option (List Text)
  | [] => some []
  | (name, value) :: rest => do return (name.quoted ++ ": " ++ (← shown? value)) :: (← shownMembers? rest)

end

def argument : Json → Argument
  | .null => .null
  | .bool value => .bool value
  | .str text => .str text
  | value => .other ((shown? value).elim (.error .longNumber) .ok)

end Json

end Screener
