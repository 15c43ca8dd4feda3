import Screener.Digest.Sha256
import Screener.Formula.Basic
import Screener.Issue
import Screener.Json.Writer
import Screener.Text.Blank

/-!
Records: formulas saved under a name, and how tokens and records stand as data.  Name and description are trimmed and
the name is not empty.  A record with tokens has their texts as its equation; one without tokens may have any equation.
-/

namespace Screener

namespace Token

def toJson (token : Token) : Json :=
  .obj [("type", .str token.kind.name), ("value", .str token.text)]

def Kind.ofJson : Json → Checked Kind
  | .str name =>
    match Kind.ofName? name with
    | some kind => .ok kind
    | none => Checked.fail .notTokenKind
  | _ => Checked.fail .notTokenKind

def aliased {α : Type} (members : List (Text × Json)) (name other : Text) (check : Json → Checked α) :
    Checked α :=
  match Json.member? name members, Json.member? other members with
  | none, some _ => Json.field members other check
  | _, _ => Json.field members name check

def ofJson : Json → Checked Token
  | .obj members => do
    let (kind, text) ←
      Checked.both (aliased members "type" "kind" Kind.ofJson) (aliased members "value" "text" Json.asText)
    return ⟨kind, text⟩
  | _ => Checked.fail .notToken

end Token

def Formula.ofJson : Json → Checked Formula
  | .arr items => Checked.items Token.ofJson items
  | _ => Checked.fail .notTokenList

def Formula.toJson (formula : Formula) : Json := .arr (formula.map Token.toJson)

structure Record where
  name : Text
  description : Text
  tokens : Formula
  equation : Text
  trim_name : name.trim = name
  name_ne_nil : name ≠ []
  trim_description : description.trim = description
  equation_eq : tokens ≠ [] → equation = tokens.equation
  deriving DecidableEq

namespace Record

/-- A record under a name, unless the name is blank.  The equation counts only where there are no
tokens. -/
def make? (name description : Text) (tokens : Formula) (equation : Text) : Option Record :=
  if h : name.trim = [] then none
  else some {
    name := name.trim
    description := description.trim
    tokens := tokens
    equation := if tokens = [] then equation else tokens.equation
    trim_name := Text.trim_trim name
    name_ne_nil := h
    trim_description := Text.trim_trim description
    equation_eq := fun h => if_neg h }

def withFormula (record : Record) (formula : Formula) : Record :=
  { record with tokens := formula, equation := formula.equation, equation_eq := fun _ => rfl }

/-- Why data does not give a record.  A description that is there and is not text stops the reading at
once; all other issues are collected. -/
inductive Fault
  | descriptionNotText (kind : Json.Kind)
  | issues (issues : List Issue)
  deriving DecidableEq

def descriptionText (value : Json) : Except Json.Kind Text :=
  if value.isVoid then .ok []
  else match value with
    | .str text => .ok (Text.trim text)
    | other => .error other.kind

def nameText : Json → Checked Text
  | .str name => if Text.blank name then Checked.fail (.refused .nameRequired) else .ok name
  | _ => Checked.fail .notText

def ofMembers (members : List (Text × Json)) : Except Fault Record := do
  let description ←
    (descriptionText ((Json.member? "description" members).getD .null)).mapError .descriptionNotText
  let parts :=
    Checked.both (Json.field members "name" nameText) <|
      Checked.both (Json.fieldOr members "tokens" [] Formula.ofJson) <|
        Json.fieldOr members "equation" [] Json.asText
  let (name, tokens, equation) ← parts.mapError .issues
  match make? name description tokens equation with
  | some record => return record
  | none => .error (.issues [⟨[.field "name"], .refused .nameRequired⟩])

def ofJson : Json → Except Fault Record
  | .obj members => ofMembers members
  | _ => .error (.issues [⟨[], .notRecord⟩])

def toJson (record : Record) : Json :=
  .obj [("name", .str record.name), ("description", .str record.description),
    ("tokens", Formula.toJson record.tokens), ("equation", .str record.equation)]

def fingerprintText (record : Record) : Text :=
  Json.compact (.arr (record.tokens.map fun token => .arr [.str token.kind.name, .str token.text]))

def fingerprint (record : Record) : Text := (Sha256.digest record.fingerprintText).take 12

end Record

end Screener
