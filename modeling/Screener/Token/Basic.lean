import Screener.Text.Basic

/-!
Tokens, the elements of a formula.  A token pairs a kind with a text; nothing ties the two together, since
saved formulas may hold any pair.
-/

namespace Screener

inductive Token.Kind
  | function
  | operator
  | comparison
  | number
  deriving DecidableEq

structure Token where
  kind : Token.Kind
  text : Text
  deriving DecidableEq

namespace Token

def Kind.name : Kind → Text
  | .function => "function"
  | .operator => "operator"
  | .comparison => "comparison"
  | .number => "number"

def Kind.ofName? (name : Text) : Option Kind :=
  [Kind.function, .operator, .comparison, .number].find? (·.name == name)

def Kind.isOperand : Kind → Bool
  | .function | .number => true
  | .operator | .comparison => false

def Kind.isSymbol (kind : Kind) : Bool := !kind.isOperand

def isOperand (token : Token) : Bool := token.kind.isOperand

def isSymbol (token : Token) : Bool := token.kind.isSymbol

def isComparison (token : Token) : Bool := token.kind == .comparison

@[simp] theorem Kind.ofName?_name (kind : Kind) : ofName? kind.name = some kind := by
  cases kind <;> decide

@[simp] theorem isSymbol_eq (token : Token) : token.isSymbol = !token.isOperand := rfl

end Token

def arithmeticSymbols : List Text := ["+", "-", "*", "/"]

def comparisonSymbols : List Text := [">", "<", ">=", "<=", "==", "!="]

def classify (symbol : Text) : Option Token.Kind :=
  if symbol ∈ comparisonSymbols then some .comparison
  else if symbol ∈ arithmeticSymbols then some .operator
  else none

end Screener
