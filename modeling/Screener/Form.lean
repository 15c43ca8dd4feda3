import Screener.Fault
import Screener.Record

namespace Screener

namespace Form

def isNameMissing (name : Option Text) : Bool := (name.getD []).blank

/-- What stands against saving the formula of an edit session under a name.  What the session's edits
have already looked at is not looked at again. -/
def commitErrors (name : Option Text) (formula : Formula) : Errors where
  nameRequired := isNameMissing name
  formula :=
    if formula.isEmpty then some .required
    else formula.defect?.map fun defect => .rejected (.incomplete defect)

def readFormula (catalog : Catalog) (equation : Option Text) : Except FormulaError Formula :=
  if (equation.getD []).blank then .error .required
  else match catalog.read (equation.getD []) with
    | .error error => .error (.unreadable error)
    | .ok formula =>
      if formula.isEmpty then .error .required
      else match catalog.problem? formula with
        | some problem => .error (.rejected problem)
        | none => .ok formula

def record (name : Option Text) (formula : Formula) (description : Json) : Except Fault Record := do
  let description ← (Record.descriptionText description).mapError .descriptionNotText
  match Record.make? (name.getD []) description formula [] with
  | some record => return record
  | none => .error (.invalid ⟨true, none⟩)

def submit (catalog : Catalog) (name equation : Option Text) (description : Json) :
    Except Fault Record :=
  match readFormula catalog equation with
  | .ok formula =>
    if isNameMissing name then .error (.invalid ⟨true, none⟩) else record name formula description
  | .error error => .error (.invalid ⟨isNameMissing name, some error⟩)

def commit (name : Option Text) (formula : Formula) (description : Json) : Except Fault Record :=
  let errors := commitErrors name formula
  if errors.isEmpty then record name formula description else .error (.invalid errors)

end Form

end Screener
