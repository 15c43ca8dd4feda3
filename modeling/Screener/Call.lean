import Screener.Catalog.Basic

namespace Screener

structure Call where
  name : Text
  arguments : List Text
  deriving DecidableEq

namespace Call

def format (name : Text) (values : List Text) : Text := name ++ "(" ++ Text.join ", " values ++ ")"

def splitArguments (text : Text) : List Text :=
  if text.blank then [] else (Text.splitOn ',' text).map Text.trim

/-- The name and the text between the parentheses, of a text that is an identifier, an opening
parenthesis directly after it, anything, and a closing parenthesis, with blanks around it all. -/
def parts? (text : Text) : Option (Text × Text) :=
  let start := text.trimStart
  let length := identifierExtent start
  if length = 0 then none
  else match start.drop length with
    | '(' :: rest =>
      let inner := Text.trimEnd rest
      if inner.getLast? = some ')' then some (start.take length, inner.dropLast) else none
    | _ => none

def ofText? (text : Text) : Option Call :=
  (parts? text).map fun (name, inner) => ⟨name, splitArguments inner⟩

end Call

inductive CallError
  | unknownFunction (name : Text)
  | wrongCount (name : Text) (expected given : Nat)
  deriving DecidableEq

def unknownFunctionMessage (name : Text) : Text := "Unknown function " ++ name.quote

def CallError.message : CallError → Text
  | .unknownFunction name => unknownFunctionMessage name
  | .wrongCount name expected given =>
    "Function " ++ name.quote ++ " takes " ++ Text.ofNat expected ++ " values, got "
      ++ Text.ofNat given

def notCallMessage (text : Text) : Text := "Not a function call: " ++ text.quote

structure CallReading where
  call : Call
  function : Option Signature
  deriving DecidableEq

namespace CallReading

def known (reading : CallReading) : Bool := reading.function.isSome

def name (reading : CallReading) : Text :=
  match reading.function with
  | some signature => signature.name
  | none => reading.call.name

def values (reading : CallReading) : List Text :=
  match reading.function with
  | some signature => signature.fill reading.call.arguments
  | none => []

def namedValues (reading : CallReading) : List (Text × Text) :=
  match reading.function with
  | some signature => signature.named reading.values
  | none => []

end CallReading

namespace Catalog

def encode (catalog : Catalog) (name : Text) (values : List Text) : Except CallError Text :=
  match catalog.lookup name with
  | none => .error (.unknownFunction name)
  | some signature =>
    if values.length = signature.parameters.length then .ok (Call.format signature.name values)
    else .error (.wrongCount signature.name signature.parameters.length values.length)

def decode? (catalog : Catalog) (text : Text) : Option CallReading :=
  (Call.ofText? text).map fun call => ⟨call, catalog.lookup call.name⟩

end Catalog

end Screener
