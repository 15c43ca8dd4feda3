import Screener.Catalog.Signature

namespace Screener

inductive Issue.Step
  | field (name : Text)
  | item (index : Nat)
  deriving DecidableEq

inductive Issue.Refusal
  | nameRequired
  | invalidFunctionName (name : Text)
  | noText (cause : Parameter.NoText)
  | notSeries (series : List Text)
  | noOptions (parameter : Text)
  | defaultNotOffered (parameter default : Text)
  | repeatedParameter (parameter function : Text)
  deriving DecidableEq

def Issue.Refusal.message : Issue.Refusal → Text
  | .nameRequired => "Name is required"
  | .invalidFunctionName name => name.quote ++ " is not a valid function name"
  | .noText cause => cause.message
  | .notSeries series => "source default must be one of " ++ Text.join ", " series
  | .noOptions parameter => "select parameter " ++ parameter.quote ++ " has no options"
  | .defaultNotOffered parameter default =>
    "default " ++ default.quote ++ " of " ++ parameter.quote ++ " is not one of its options"
  | .repeatedParameter parameter function =>
    "duplicate parameter " ++ parameter.quote ++ " in " ++ function

inductive Issue.Cause
  | missing
  | notText
  | notFlag
  | unreadableFlag
  | notTokenKind
  | notToken
  | notTokenList
  | notRecord
  | notRecordList
  | notParameter
  | notParameterList
  | notOptionList
  | untagged
  | unknownTag
  | otherTag
  | refused (refusal : Issue.Refusal)
  deriving DecidableEq

structure Issue where
  place : List Issue.Step
  cause : Issue.Cause
  deriving DecidableEq

abbrev Checked := Except (List Issue)

namespace Checked

def fail {α : Type} (cause : Issue.Cause) : Checked α := .error [⟨[], cause⟩]

def within {α : Type} (step : Issue.Step) : Checked α → Checked α
  | .ok value => .ok value
  | .error issues => .error (issues.map fun issue => ⟨step :: issue.place, issue.cause⟩)

def both {α β : Type} : Checked α → Checked β → Checked (α × β)
  | .ok a, .ok b => .ok (a, b)
  | .error issues, .ok _ | .ok _, .error issues => .error issues
  | .error first, .error second => .error (first ++ second)

def all {α : Type} : List (Checked α) → Checked (List α)
  | [] => .ok []
  | first :: rest => (both first (all rest)).map fun (value, values) => value :: values

def items {α β : Type} (check : α → Checked β) (values : List α) : Checked (List β) :=
  all (values.mapIdx fun i value => within (.item i) (check value))

end Checked

namespace Json

def required (members : List (Text × Json)) (name : Text) : Checked Json :=
  match member? name members with
  | some value => .ok value
  | none => Checked.fail .missing

def asText : Json → Checked Text
  | .str text => .ok text
  | _ => Checked.fail .notText

def optionalText (members : List (Text × Json)) (name : Text) : Checked (Option Text) :=
  match member? name members with
  | none | some .null => .ok none
  | some value => (asText value).map some

def field {α : Type} (members : List (Text × Json)) (name : Text) (check : Json → Checked α) :
    Checked α :=
  Checked.within (.field name) (required members name >>= check)

def fieldOr {α : Type} (members : List (Text × Json)) (name : Text) (absent : α)
    (check : Json → Checked α) : Checked α :=
  match member? name members with
  | none => .ok absent
  | some value => Checked.within (.field name) (check value)

end Json

end Screener
