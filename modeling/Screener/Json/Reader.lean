import Screener.Json.Basic

/-!
Reading JSON.  The grammar is the standard one, with the words `NaN`, `Infinity` and `-Infinity` besides;
control characters must be escaped inside texts, and an escape may stand for a surrogate.  Whole numbers are exact up
to a limit on their digits, other numbers are rounded to doubles.  Nesting is limited.
-/

namespace Screener

namespace Json

inductive ReadError
  | malformed
  | longNumber (digits : Nat)
  /-- More nested containers than the reader follows: those that were open, from the innermost, which was one
  too many. -/
  | tooDeep (opened : List Container)
  deriving DecidableEq

def Container.name : Container → Text
  | .array => "array"
  | .object => "object"

def tooDeepMessage (opened : List Container) : Text :=
  "maximum recursion depth exceeded while decoding a JSON " ++ (opened.headD .array).name
    ++ " from a unicode string"

/-- How many containers may be open at once where nothing else takes up the stack. -/
def depthLimit : Nat := 989

/-- The outcome of reading.  A part of a text is read together with the text after it. -/
abbrev Outcome := Except ReadError

def isSpace (c : Char) : Bool := c = ' ' || c = '\t' || c = '\n' || c = '\r'

def skipSpace (text : Text) : Text := text.dropWhile isSpace

def hexDigit? (c : Char) : Option Nat :=
  if '0' ≤ c ∧ c ≤ '9' then some (c.toNat - '0'.toNat)
  else if 'a' ≤ c ∧ c ≤ 'f' then some (c.toNat - 'a'.toNat + 10)
  else if 'A' ≤ c ∧ c ≤ 'F' then some (c.toNat - 'A'.toNat + 10)
  else none

def hexUnit? (a b c d : Char) : Option Nat :=
  return (((← hexDigit? a) * 16 + (← hexDigit? b)) * 16 + (← hexDigit? c)) * 16 + (← hexDigit? d)

def letterEscape? : Char → Option Char
  | '"' => some '"'
  | '\\' => some '\\'
  | '/' => some '/'
  | 'b' => some '\x08'
  | 'f' => some '\x0c'
  | 'n' => some '\n'
  | 'r' => some '\r'
  | 't' => some '\t'
  | _ => none

/-- A text with a unit in front, which makes one character with a surrogate that follows if it can. -/
def consUnit (unit : Nat) (text : RawText) : RawText :=
  match CodePoint.ofUnit unit, text with
  | .surrogate high, .surrogate low :: rest =>
    if high.isHigh && !low.isHigh then .char (high.join low) :: rest else .surrogate high :: .surrogate low :: rest
  | point, text => point :: text

def readText : Text → Outcome (RawText × Text)
  | '"' :: rest => .ok ([], rest)
  | '\\' :: 'u' :: a :: b :: c :: d :: rest =>
    match hexUnit? a b c d with
    | none => .error .malformed
    | some unit => do
      let (text, rest) ← readText rest
      return (consUnit unit text, rest)
  | '\\' :: c :: rest =>
    match letterEscape? c with
    | none => .error .malformed
    | some c => do
      let (text, rest) ← readText rest
      return (.char c :: text, rest)
  | c :: rest =>
    if c.toNat < 0x20 || c = '\\' then .error .malformed
    else do
      let (text, rest) ← readText rest
      return (.char c :: text, rest)
  | [] => .error .malformed

def digitsValue (digits : Text) : Nat :=
  digits.foldl (fun value c => 10 * value + (c.toNat - '0'.toNat)) 0

def readDigits (text : Text) : Option (Text × Text) :=
  match text.span Char.isDigit with
  | ([], _) => none
  | (c :: digits, rest) => some (c :: digits, rest)

def readFraction : Text → Option (Text × Text)
  | '.' :: rest => readDigits rest
  | _ => none

def readExponent (negative : Bool) (text : Text) : Option (Int × Text) :=
  (readDigits text).map fun (digits, rest) =>
    let value : Int := digitsValue digits
    (if negative then -value else value, rest)

def readPower : Text → Option (Int × Text)
  | 'e' :: '-' :: rest | 'E' :: '-' :: rest => readExponent true rest
  | 'e' :: '+' :: rest | 'E' :: '+' :: rest => readExponent false rest
  | 'e' :: rest | 'E' :: rest => readExponent false rest
  | _ => none

def readWhole : Text → Option (Text × Text)
  | '0' :: rest => some (['0'], rest)
  | text => readDigits text

def readScale (text : Text) : Option (Text × Int × Text) :=
  match readFraction text with
  | some (fraction, rest) =>
    let (power, rest) := (readPower rest).getD (0, rest)
    some (fraction, power, rest)
  | none => (readPower text).map fun (power, rest) => ([], power, rest)

def readMagnitude (negative : Bool) (text : Text) : Outcome (RawJson × Text) :=
  match readWhole text with
  | none => .error .malformed
  | some (whole, rest) =>
    match readScale rest with
    | some (fraction, power, rest) =>
      .ok (.double (.ofDecimal negative (digitsValue (whole ++ fraction)) (power - fraction.length)), rest)
    | none =>
      if Text.digitLimit < whole.length then .error (.longNumber whole.length)
      else
        let value : Int := digitsValue whole
        .ok (.int (if negative then -value else value), rest)

def readNumber : Text → Outcome (RawJson × Text)
  | '-' :: rest => readMagnitude true rest
  | text => readMagnitude false text

def words : List (Text × RawJson) :=
  [("null", .null), ("true", .bool true), ("false", .bool false), ("NaN", .double .nan),
    ("Infinity", .double (.infinite false)), ("-Infinity", .double (.infinite true))]

def readWord (text : Text) (word : Text × RawJson) : Option (RawJson × Text) :=
  if word.1.isPrefixOf text then some (word.2, text.drop word.1.length) else none

def readScalar (text : Text) : Outcome (RawJson × Text) :=
  match words.findSome? (readWord text) with
  | some found => .ok found
  | none => readNumber text

mutual

/-- A value at the start of the text inside some open containers, with so many levels of nesting left. -/
def readValue : (fuel depth : Nat) → List Container → Text → Outcome (RawJson × Text)
  | 0, _, _, _ => .error .malformed
  | fuel + 1, depth, opened, text =>
    match text with
    | '"' :: rest => do
      let (text, rest) ← readText rest
      return (.str text, rest)
    | '[' :: rest =>
      match depth, skipSpace rest with
      | 0, _ => .error (.tooDeep (.array :: opened))
      | _, ']' :: rest => .ok (.arr [], rest)
      | depth + 1, rest => do
        let (items, rest) ← readItems fuel depth (.array :: opened) rest
        return (.arr items, rest)
    | '\x7b' :: rest =>
      match depth, skipSpace rest with
      | 0, _ => .error (.tooDeep (.object :: opened))
      | _, '\x7d' :: rest => .ok (.obj [], rest)
      | depth + 1, rest => do
        let (members, rest) ← readMembers fuel depth (.object :: opened) rest
        return (.obj (Entries.ofList members), rest)
    | _ => readScalar text

def readItems : (fuel depth : Nat) → List Container → Text → Outcome (List RawJson × Text)
  | 0, _, _, _ => .error .malformed
  | fuel + 1, depth, opened, text => do
    let (item, rest) ← readValue fuel depth opened text
    match skipSpace rest with
    | ']' :: rest => return ([item], rest)
    | ',' :: rest =>
      let (items, rest) ← readItems fuel depth opened (skipSpace rest)
      return (item :: items, rest)
    | _ => .error .malformed

def readMembers : (fuel depth : Nat) → List Container → Text → Outcome (List (RawText × RawJson) × Text)
  | 0, _, _, _ => .error .malformed
  | fuel + 1, depth, opened, text =>
    match text with
    | '"' :: rest => do
      let (name, rest) ← readText rest
      match skipSpace rest with
      | ':' :: rest =>
        let (value, rest) ← readValue fuel depth opened (skipSpace rest)
        match skipSpace rest with
        | '\x7d' :: rest => return ([(name, value)], rest)
        | ',' :: rest =>
          let (members, rest) ← readMembers fuel depth opened (skipSpace rest)
          return ((name, value) :: members, rest)
        | _ => .error .malformed
      | _ => .error .malformed
    | _ => .error .malformed

end

/-- The value that a whole text holds.  Two steps a character are enough for any text. -/
def read (text : Text) (depth : Nat := depthLimit) : Outcome RawJson := do
  let (value, rest) ← readValue (2 * text.length + 2) depth [] (skipSpace text)
  if (skipSpace rest).isEmpty then return value else .error .malformed

end Json

end Screener
