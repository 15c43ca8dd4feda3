import Screener.Fault
import Screener.Record

namespace Screener

abbrev Library := List Record

namespace Library

def indexOf? (library : Library) (name : Text) : Option Nat := library.findIdx? (·.name == name)

def get? (library : Library) (name : Text) : Option Record := library.find? (·.name == name)

def add (library : Library) (record : Record) : Except Fault Library :=
  match library.indexOf? record.name with
  | some _ => .error (.duplicate record.name)
  | none => .ok (library ++ [record])

def replace (library : Library) (name : Text) (record : Record) : Except Fault Library :=
  match library.indexOf? name with
  | none => .error (.notFound name)
  | some index =>
    match library.indexOf? record.name with
    | some other =>
      if other = index then .ok (library.set index record) else .error (.duplicate record.name)
    | none => .ok (library.set index record)

def remove (library : Library) (name : Text) : Except Fault Library :=
  match library.indexOf? name with
  | none => .error (.notFound name)
  | some index => .ok (library.eraseIdx index)

def toJson (library : Library) : Json :=
  .obj [("formulas", .arr (library.map Record.toJson))]

/-- The records of a list of data.  A description that is not text counts before any other issue. -/
def ofItems : List Json → Except Record.Fault Library
  | [] => .ok []
  | item :: rest =>
    match Record.ofJson item, ofItems rest with
    | .ok record, .ok records => .ok (record :: records)
    | .error (.descriptionNotText kind), _ => .error (.descriptionNotText kind)
    | _, .error fault => .error fault
    | .error fault, .ok _ => .error fault

def ofJson : Json → Except Record.Fault Library
  | .obj members =>
    match Json.member? "formulas" members with
    | none => .ok []
    | some (.arr items) => ofItems items
    | some _ => .error (.issues [⟨[.field "formulas"], .notRecordList⟩])
  | _ => .error (.issues [⟨[], .notRecordList⟩])

end Library

end Screener
