import Screener.Formula.Assess
import Screener.Json.Basic

namespace Screener

inductive Form.FormulaError
  | required
  | unreadable (error : EquationError)
  | rejected (problem : Formula.Problem)
  deriving DecidableEq

structure Form.Errors where
  nameRequired : Bool
  formula : Option Form.FormulaError
  deriving DecidableEq

namespace Form

def FormulaError.message : FormulaError → Text
  | .required => "Formula is required"
  | .unreadable error => error.message
  | .rejected problem => problem.message

def Errors.isEmpty (errors : Errors) : Bool := !errors.nameRequired && errors.formula.isNone

def Errors.entries (errors : Errors) : List (Text × Text) :=
  (if errors.nameRequired then [("name".toList, "Name is required".toList)] else [])
    ++ (errors.formula.map fun error => ("formula".toList, error.message)).toList

def Errors.message (errors : Errors) : Text :=
  Text.join "; " (errors.entries.map fun (field, message) => field ++ ": " ++ message)

end Form

inductive Fault
  | unreadable (error : EquationError)
  | invalid (errors : Form.Errors)
  | notFound (name : Text)
  | duplicate (name : Text)
  | descriptionNotText (kind : Json.Kind)
  /-- The file nests deeper than can be read: the containers that were open, from the innermost. -/
  | tooDeep (opened : List Json.Container)
  | isDirectory
  | unreachable
  deriving DecidableEq

def notFoundMessage (name : Text) : Text := "Formula " ++ name.quote ++ " not found"

def duplicateMessage (name : Text) : Text := "Formula " ++ name.quote ++ " already exists"

def Fault.message : Fault → Text
  | .unreadable error => error.message
  | .invalid errors => errors.message
  | .notFound name => notFoundMessage name
  | .duplicate name => duplicateMessage name
  | .descriptionNotText _ => "description is not text"
  | .tooDeep _ => "formulas file is nested too deep"
  | .isDirectory => "formulas file is a directory"
  | .unreachable => "path of the formulas file is too long"

end Screener
