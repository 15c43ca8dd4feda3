import Screener.Form
import Screener.Library.Store
import Screener.Session

namespace Screener

/-- The record with the tokens of its equation, if it has none and the equation can be read. -/
def Record.withTokens (record : Record) : Record :=
  if record.tokens ≠ [] ∨ record.equation = [] then record
  else match Formula.ofEquationAnyFunction record.equation with
    | .ok formula => record.withFormula formula
    | .error _ => record

structure Notebook where
  catalog : Catalog

namespace Notebook

def withCatalog (catalog : Catalog) : Notebook := ⟨catalog.orBuiltIn⟩

def check (notebook : Notebook) (equation : Text) :
    Except EquationError (Formula × Option Formula.Problem) :=
  notebook.catalog.check equation

def get (name : Text) : Store Record := Store.around do
  match ← Store.get? name with
  | some record => return record.withTokens
  | none => throw (.notFound name)

def list : Store Library := Store.around do return (← Store.list).map Record.withTokens

def submit (notebook : Notebook) (name equation : Option Text) (description : Json) : Store Record :=
  MonadExcept.ofExcept (Form.submit notebook.catalog name equation description)

def create (notebook : Notebook) (name equation : Option Text) (description : Json) :
    Store Record := Store.around do
  let record ← notebook.submit name equation description
  Store.add record
  return record

def update (notebook : Notebook) (name : Text) (equation : Option Text) (description : Option Json)
    (newName : Option Text) : Store Record := Store.around do
  let existing ← get name
  let record ← notebook.submit (newName.getD existing.name) (equation.getD existing.equation)
    (description.getD (.str existing.description))
  Store.replace name record
  return record

def delete (name : Text) : Store Unit := Store.around (Store.remove name)

def openSession (notebook : Notebook) (name : Option Text) : Store Session := Store.around do
  match name.getD [] with
  | [] => return Session.start notebook.catalog []
  | name => return Session.start notebook.catalog (← get name).tokens

def saveSession (session : Session) (name : Option Text) (description : Json)
    (replacing : Option Text) : Store Record := Store.around do
  let record ← MonadExcept.ofExcept (Form.commit name session.formula description)
  match replacing with
  | none => Store.add record
  | some other => Store.replace other record
  return record

end Notebook

end Screener
