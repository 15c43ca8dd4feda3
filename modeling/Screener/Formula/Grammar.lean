import Screener.Formula.Basic

/-!
What makes a formula complete, and what may follow what.  A complete formula has a comparison with an
operand on each side and does not end with a symbol.  The adjacency rules say when a symbol or a number
may be put after the tokens before it; replaying them over a whole formula finds the first token that could
not have been put there.
-/

namespace Screener

namespace Formula

inductive Defect
  | empty
  | missingComparison
  | missingLeftOperand
  | missingRightOperand
  | endsWithOperator
  deriving DecidableEq

def Defect.message : Defect → Text
  | .empty => "empty formula"
  | .missingComparison => "missing comparison operator"
  | .missingLeftOperand => "missing left operand"
  | .missingRightOperand => "missing right operand"
  | .endsWithOperator => "formula ends with an operator"

def endsWithSymbol (formula : Formula) : Bool := formula.getLast?.any Token.isSymbol

def endsWithOperand (formula : Formula) : Bool := formula.getLast?.any Token.isOperand

def defect? (formula : Formula) : Option Defect :=
  if formula.isEmpty then some .empty
  else match formula.comparisonIndex with
    | none => some .missingComparison
    | some index =>
      if !(formula.take index).any Token.isOperand then some .missingLeftOperand
      else if !(formula.drop (index + 1)).any Token.isOperand then some .missingRightOperand
      else if formula.endsWithSymbol then some .endsWithOperator
      else none

inductive Misplacement
  | unknownOperator (symbol : Text)
  | operatorFirst
  | adjacentOperators
  | secondComparison
  | adjacentNumber
  deriving DecidableEq

def Misplacement.message : Misplacement → Text
  | .unknownOperator symbol => "unknown operator " ++ symbol.quote
  | .operatorFirst => "an operator needs a value before it"
  | .adjacentOperators => "two operators cannot be adjacent"
  | .secondComparison => "formula already has a comparison operator"
  | .adjacentNumber => "a number must follow an operator"

def operatorRejection (formula : Formula) (symbol : Text) : Option Misplacement :=
  match classify symbol with
  | none => some (.unknownOperator symbol)
  | some kind =>
    if formula.isEmpty then some .operatorFirst
    else if formula.endsWithSymbol then some .adjacentOperators
    else if kind = .comparison ∧ formula.hasComparison then some .secondComparison
    else none

def canAppendOperator (formula : Formula) (symbol : Text) : Bool :=
  match classify symbol with
  | none => false
  | some kind =>
    !formula.isEmpty && !formula.endsWithSymbol && !(kind == .comparison && formula.hasComparison)

def canAppendNumber (formula : Formula) : Bool := !formula.endsWithOperand

def canSetOperator (formula : Formula) (index : Int) (symbol : Text) : Bool :=
  match classify symbol, formula.at? index with
  | some kind, some token =>
    token.isSymbol && !(kind == .comparison && formula.hasComparisonBesides index)
  | _, _ => false

def misplacement? (before : Formula) (token : Token) : Option Misplacement :=
  if token.isSymbol then before.operatorRejection token.text
  else if token.kind = .number ∧ !before.canAppendNumber then some .adjacentNumber
  else none

def adjacencyProblemAfter (before : Formula) : Formula → Option (Misplacement × Nat)
  | [] => none
  | token :: rest =>
    match before.misplacement? token with
    | some cause => some (cause, before.length)
    | none => adjacencyProblemAfter (before ++ [token]) rest

def adjacencyProblem (formula : Formula) : Option (Misplacement × Nat) := adjacencyProblemAfter [] formula

def adjacencyMessage : Misplacement × Nat → Text
  | (cause, position) => cause.message ++ " (position " ++ Text.ofNat position ++ ")"

theorem canAppendOperator_iff {formula : Formula} {symbol : Text} :
    formula.canAppendOperator symbol ↔ formula.operatorRejection symbol = none := by
  unfold canAppendOperator operatorRejection
  cases classify symbol with
  | none => simp
  | some kind =>
    cases formula.isEmpty <;> cases formula.endsWithSymbol <;> simp
    by_cases h : kind = .comparison <;> simp [h]

end Formula

end Screener
