import Screener.Call
import Screener.Formula.Grammar

/-!
Edits: the ways to change a formula one step at a time.  An edit gives the changed formula or the reason
why it does not apply, unless something that it has to write cannot be written.  Every edit but a deletion looks at the
neighbours of what it changes; the gap that a deletion leaves is for the completeness check to find.
-/

namespace Screener

inductive Rejection
  | misplaced (cause : Formula.Misplacement)
  | notNumber (literal : Text)
  | unknownFunction (name : Text)
  | noText (cause : Parameter.NoText)
  | badValue (problem : Parameter.Problem)
  | noCallAt (index : Int)
  | noOperatorAt (index : Int)
  | noNumberAt (index : Int)
  | noTokenAt (index : Int)
  | emptyFormula
  deriving DecidableEq

def Rejection.message : Rejection → Text
  | .misplaced cause => cause.message
  | .notNumber literal => literal.quote ++ " is not a number"
  | .unknownFunction name => unknownFunctionMessage name
  | .noText cause => cause.message
  | .badValue problem => problem.message
  | .noCallAt index => "no function call at position " ++ Text.ofInt index
  | .noOperatorAt index => "no operator at position " ++ Text.ofInt index
  | .noNumberAt index => "no number at position " ++ Text.ofInt index
  | .noTokenAt index => "no token at position " ++ Text.ofInt index
  | .emptyFormula => "formula is empty"

inductive Edit.Refusal
  | rejected (reason : Rejection)
  | failed (cause : Argument.Unwritten)
  deriving DecidableEq

/-- A change to a formula.  Literals and values are taken as they come, from a text field or as data. -/
inductive Edit
  | appendOperator (symbol : Text)
  | appendNumber (literal : Argument)
  | putCall (name : Text) (values : List (Text × Argument)) (target : Option Int)
  | setOperator (index : Int) (symbol : Text)
  | setNumber (index : Int) (literal : Argument)
  | delete (index : Int)
  | truncate
  | clear

def literalText (literal : Argument) : Except Argument.Unwritten Text :=
  match literal with
  | .str text => .ok text.trim
  | value => value.text

/-- A value of which no parameter takes the text is rejected, except where writing it does not come to an end. -/
def Edit.Refusal.ofNoText : Parameter.NoText → Edit.Refusal
  | .unwritten .tooDeep => .failed .tooDeep
  | cause => .rejected (.noText cause)

namespace Formula

abbrev Edited := Except Edit.Refusal Formula

def reject (reason : Rejection) : Edited := .error (.rejected reason)

def rejectAt (reason : Int → Rejection) (index : Int) : Edited :=
  if Text.isLong index then .error (.failed .longNumber) else reject (reason index)

def appendOperator (formula : Formula) (symbol : Text) : Edited :=
  match classify symbol, formula.operatorRejection symbol with
  | some kind, none => .ok (formula.append ⟨kind, symbol⟩)
  | _, some cause => reject (.misplaced cause)
  | none, none => reject (.misplaced (.unknownOperator symbol))

def appendNumber (formula : Formula) (literal : Text) : Edited :=
  if !isDecimal literal then reject (.notNumber literal)
  else if !formula.canAppendNumber then reject (.misplaced .adjacentNumber)
  else .ok (formula.append ⟨.number, literal⟩)

def callToken (catalog : Catalog) (name : Text) (values : List (Text × Argument)) :
    Except Edit.Refusal Token :=
  match catalog.lookup name with
  | none => .error (.rejected (.unknownFunction name))
  | some signature =>
    match signature.resolve values with
    | .error cause => .error (.ofNoText cause)
    | .ok ordered =>
      match signature.check ordered with
      | some problem => .error (.rejected (.badValue problem))
      | none => .ok ⟨.function, Call.format signature.name ordered⟩

def putCall (formula : Formula) (token : Token) (target : Option Int) : Edited :=
  match target with
  | none => .ok (formula.append token)
  | some index =>
    match formula.at? index with
    | some old =>
      if old.kind = .function then .ok (formula.set index.toNat token) else rejectAt .noCallAt index
    | none => rejectAt .noCallAt index

def setOperator (formula : Formula) (index : Int) (symbol : Text) : Edited :=
  match classify symbol with
  | none => reject (.misplaced (.unknownOperator symbol))
  | some kind =>
    match formula.at? index with
    | some old =>
      if !old.isSymbol then rejectAt .noOperatorAt index
      else if formula.canSetOperator index symbol then .ok (formula.set index.toNat ⟨kind, symbol⟩)
      else reject (.misplaced .secondComparison)
    | none => rejectAt .noOperatorAt index

def setNumber (formula : Formula) (index : Int) (literal : Text) : Edited :=
  match formula.at? index with
  | some old =>
    if old.kind ≠ .number then rejectAt .noNumberAt index
    else if !isDecimal literal then reject (.notNumber literal)
    else .ok (formula.set index.toNat ⟨.number, literal⟩)
  | none => rejectAt .noNumberAt index

def delete (formula : Formula) (index : Int) : Edited :=
  match formula.remove? index with
  | some formula => .ok formula
  | none => rejectAt .noTokenAt index

def truncate (formula : Formula) : Edited :=
  if formula.isEmpty then reject .emptyFormula else .ok formula.dropLast

def clear (formula : Formula) : Edited :=
  if formula.isEmpty then reject .emptyFormula else .ok []

end Formula

def Edit.apply (catalog : Catalog) (formula : Formula) : Edit → Except Edit.Refusal Formula
  | .appendOperator symbol => formula.appendOperator symbol
  | .appendNumber literal => do formula.appendNumber (← (literalText literal).mapError .failed)
  | .putCall name values target => do
    let token ← Formula.callToken catalog name values
    formula.putCall token target
  | .setOperator index symbol => formula.setOperator index symbol
  | .setNumber index literal => do formula.setNumber index (← (literalText literal).mapError .failed)
  | .delete index => formula.delete index
  | .truncate => formula.truncate
  | .clear => formula.clear

end Screener
