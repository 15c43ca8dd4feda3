import Screener.Equation.Lexeme

namespace Screener

inductive EquationError.Cause
  | unterminatedCall (name : Text)
  | unknownFunction (name : Text)
  | bareName (name : Text)
  | strayParenthesis
  | unexpected (text : Text)
  deriving DecidableEq

structure EquationError where
  text : Text
  position : Nat
  cause : EquationError.Cause
  deriving DecidableEq

namespace EquationError

def Cause.message : Cause → Text
  | .unterminatedCall name => "unterminated call to " ++ name
  | .unknownFunction name => "unknown function " ++ name
  | .bareName name => "expected '(' after " ++ name
  | .strayParenthesis => "parentheses are only allowed in function calls"
  | .unexpected text => "unexpected " ++ text.quote

def message (error : EquationError) : Text :=
  error.cause.message ++ " at position " ++ Text.ofNat error.position ++ " in " ++ error.text.quote

end EquationError

inductive Segment
  | call (name : Lexeme) (body : List Lexeme)
  | single (lexeme : Lexeme)
  deriving DecidableEq

namespace Segment

def start : Segment → Nat
  | .call name _ => name.start
  | .single lexeme => lexeme.start

def text : Segment → Text
  | .call name body => name.text ++ body.flatMap Lexeme.text
  | .single lexeme => lexeme.text

def isSpace : Segment → Bool
  | .call _ _ => false
  | .single lexeme => lexeme.kind == .space

/-- A call that is still open: its name, the body so far with the latest lexeme first, and how many
parentheses are open. -/
structure OpenCall where
  name : Lexeme
  body : List Lexeme
  depth : Nat

def opensCall (lexeme : Lexeme) (rest : List Lexeme) : Bool :=
  lexeme.kind == .identifier && rest.head?.any (·.kind == .opening)

/-- Groups the lexemes after an open call, if there is one; fails with the name of a call that is never
closed. -/
def group : Option OpenCall → List Lexeme → Except Lexeme (List Segment)
  | none, [] => .ok []
  | some pending, [] => .error pending.name
  | none, lexeme :: rest =>
    if opensCall lexeme rest then group (some ⟨lexeme, [], 0⟩) rest
    else do return .single lexeme :: (← group none rest)
  | some pending, lexeme :: rest =>
    let body := lexeme :: pending.body
    match lexeme.kind with
    | .opening => group (some ⟨pending.name, body, pending.depth + 1⟩) rest
    | .closing =>
      if pending.depth = 1 then do return .call pending.name body.reverse :: (← group none rest)
      else group (some ⟨pending.name, body, pending.depth - 1⟩) rest
    | _ => group (some ⟨pending.name, body, pending.depth⟩) rest

def ofText (text : Text) : Except EquationError (List Segment) :=
  match group none (Lexeme.ofText text) with
  | .ok segments => .ok segments
  | .error name => .error ⟨text, name.start, .unterminatedCall name.text⟩

end Segment

end Screener
