import Screener.Formula.Basic
import Screener.Equation.Segment

/-!
Reading an equation text as a formula.  Calls are kept as they are written.  A sign directly in front of a
number belongs to the number where a value is expected: at the start and after another symbol.  What may
follow what is not looked at here.
-/

namespace Screener

namespace Formula

abbrev Stop := Nat × EquationError.Cause

def ofLexeme (lexeme : Lexeme) : Except Stop Token :=
  match lexeme.kind with
  | .number => .ok ⟨.number, lexeme.text⟩
  | .arithmetic => .ok ⟨.operator, lexeme.text⟩
  | .comparison => .ok ⟨.comparison, lexeme.text⟩
  | .identifier => .error (lexeme.start, .bareName lexeme.text)
  | .opening | .closing => .error (lexeme.start, .strayParenthesis)
  | .comma | .space | .unknown => .error (lexeme.start, .unexpected lexeme.text)

def signs (sign number : Lexeme) : Bool :=
  sign.kind == .arithmetic && (sign.text == ['+'] || sign.text == ['-'])
    && number.kind == .number && number.start == sign.stop

/-- The tokens of segments without spaces; `expectsValue` says whether a value is expected first. -/
def ofSegments (isKnown : Text → Bool) (expectsValue : Bool) : List Segment → Except Stop Formula
  | [] => .ok []
  | .call name body :: rest =>
    if isKnown name.text then do
      return ⟨.function, Segment.text (.call name body)⟩ :: (← ofSegments isKnown false rest)
    else .error (name.start, .unknownFunction name.text)
  | .single lexeme :: .single next :: rest =>
    if expectsValue && signs lexeme next then do
      return ⟨.number, lexeme.text ++ next.text⟩ :: (← ofSegments isKnown false rest)
    else do
      let token ← ofLexeme lexeme
      return token :: (← ofSegments isKnown token.isSymbol (.single next :: rest))
  | .single lexeme :: rest => do
    let token ← ofLexeme lexeme
    return token :: (← ofSegments isKnown token.isSymbol rest)

def ofEquation (isKnown : Text → Bool) (text : Text) : Except EquationError Formula := do
  let segments ← Segment.ofText text
  match ofSegments isKnown true (segments.filter (!·.isSpace)) with
  | .ok formula => return formula
  | .error (position, cause) => .error ⟨text, position, cause⟩

def ofEquationAnyFunction (text : Text) : Except EquationError Formula := ofEquation (fun _ => true) text

end Formula

end Screener
