import Screener.Call
import Screener.Formula.Grammar
import Screener.Formula.OfEquation

namespace Screener

namespace Formula

inductive Problem
  | incomplete (defect : Defect)
  | misplaced (cause : Misplacement) (position : Nat)
  | notCall (text : Text)
  | unknownFunction (name : Text)
  | badValue (function : Text) (problem : Parameter.Problem)
  deriving DecidableEq

def Problem.message : Problem → Text
  | .incomplete defect => defect.message
  | .misplaced cause position => adjacencyMessage (cause, position)
  | .notCall text => notCallMessage text
  | .unknownFunction name => unknownFunctionMessage name
  | .badValue function problem => function ++ ": " ++ problem.message

end Formula

def Signature.settle (signature : Signature) (values : List Text) : List Text :=
  signature.parameters.zipWith (fun parameter value => parameter.orDefault (some value.trim)) values

namespace Catalog

def callProblem? (catalog : Catalog) (token : Token) : Option Formula.Problem :=
  if token.kind ≠ .function then none
  else match catalog.decode? token.text with
    | none => some (.notCall token.text)
    | some reading =>
      match reading.function with
      | none => some (.unknownFunction reading.call.name)
      | some signature =>
        (signature.check (signature.settle reading.values)).map (.badValue signature.name)

def problem? (catalog : Catalog) (formula : Formula) : Option Formula.Problem :=
  match formula.defect? with
  | some defect => some (.incomplete defect)
  | none =>
    match formula.adjacencyProblem with
    | some (cause, position) => some (.misplaced cause position)
    | none => formula.findSome? catalog.callProblem?

def read (catalog : Catalog) (text : Text) : Except EquationError Formula :=
  Formula.ofEquation catalog.contains text

def check (catalog : Catalog) (text : Text) :
    Except EquationError (Formula × Option Formula.Problem) :=
  (catalog.read text).map fun formula => (formula, catalog.problem? formula)

end Catalog

end Screener
