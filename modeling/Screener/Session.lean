import Screener.Catalog.BuiltIn
import Screener.Formula.Edit
import Screener.Formula.View

namespace Screener

structure Snapshot where
  formula : Formula
  defect : Option Formula.Defect
  deriving DecidableEq

def Formula.snapshot (formula : Formula) : Snapshot := ⟨formula, formula.defect?⟩

structure Session where
  catalog : Catalog
  formula : Formula
  lastRejection : Option Rejection

namespace Session

def start (catalog : Catalog) (formula : Formula) : Session := ⟨catalog.orBuiltIn, formula, none⟩

def edit (session : Session) (edit : Edit) : Session × Option Snapshot :=
  match edit.apply session.catalog session.formula with
  | .ok formula => (⟨session.catalog, formula, none⟩, some formula.snapshot)
  | .error (.rejected rejection) => (⟨session.catalog, session.formula, some rejection⟩, none)
  | .error (.failed _) => (session, none)

def run (session : Session) : List Edit → Session × List Snapshot
  | [] => (session, [])
  | first :: rest =>
    let (next, report) := session.edit first
    let (last, reports) := next.run rest
    (last, report.toList ++ reports)

/-- The call text that a function would get with these values, which are not checked; none if a parameter does not
take one of them. -/
def preview (session : Session) (name : Text) (values : List (Text × Argument)) :
    Except Argument.Unwritten (Option Text) :=
  match session.catalog.lookup name with
  | none => .ok none
  | some signature =>
    match signature.resolve values with
    | .ok ordered => .ok (some (Call.format signature.name ordered))
    | .error (.unwritten .tooDeep) => .error .tooDeep
    | .error _ => .ok none

end Session

end Screener
