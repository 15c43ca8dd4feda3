import Screener.Argument
import Screener.Text.Blank
import Screener.Token.Literal

/-!
Signatures of indicator functions: a name, which is an identifier, and parameters, whose order is the order of the
arguments in a call and whose names differ.  A parameter takes a number, one of the price series, or one of its
own options; a locked number takes its default alone.  The default of a series or an option parameter is
always among what it offers, while a number's default may be any text.
-/

namespace Screener

def priceSeries : List Text := ["OPEN", "HIGH", "LOW", "CLOSE"]

inductive Parameter.Domain
  | number (locked : Bool)
  | source
  | select (options : List Text)
  deriving DecidableEq

namespace Parameter.Domain

def options : Domain → List Text
  | .number _ => []
  | .source => priceSeries
  | .select options => options

def allowsDefault (domain : Domain) (value : Text) : Bool :=
  match domain with
  | .number _ => true
  | .source | .select _ => domain.options.contains value

end Parameter.Domain

structure Parameter where
  name : Text
  domain : Parameter.Domain
  default : Text
  description : Option Text
  allowsDefault_default : domain.allowsDefault default = true := by decide
  deriving DecidableEq

namespace Parameter

inductive Problem
  | notNumber (name value : Text)
  | fixed (name default : Text)
  | notOffered (name : Text) (options : List Text) (value : Text)
  deriving DecidableEq

def Problem.message : Problem → Text
  | .notNumber name value => name ++ " must be a number, got " ++ value.quote
  | .fixed name default => name ++ " is fixed to " ++ default
  | .notOffered name options value =>
    name ++ " must be one of " ++ Text.join ", " options ++ ", got " ++ value.quote

def check (parameter : Parameter) (value : Text) : Option Problem :=
  match parameter.domain with
  | .number locked =>
    if !isDecimal value then some (.notNumber parameter.name value)
    else if locked ∧ value ≠ parameter.default then some (.fixed parameter.name parameter.default)
    else none
  | .source | .select _ =>
    if parameter.domain.options.contains value then none
    else some (.notOffered parameter.name parameter.domain.options value)

inductive NoText
  | boolean
  | unwritten (cause : Argument.Unwritten)
  deriving DecidableEq

def NoText.message : NoText → Text
  | .boolean => "boolean is not a valid parameter value"
  | .unwritten cause => cause.message

def textOf : Argument → Except NoText Text
  | .bool _ => .error .boolean
  | value => value.text.mapError .unwritten

def orDefault (parameter : Parameter) (value : Option Text) : Text :=
  match value with
  | none | some [] => parameter.default
  | some value => value

def resolve (parameter : Parameter) (value : Option Argument) : Except NoText Text :=
  match value with
  | none | some .null => .ok parameter.default
  | some value => (textOf value).map fun text => parameter.orDefault (some text.trim)

end Parameter

structure Signature where
  name : Text
  parameters : List Parameter
  description : Option Text
  isIdentifier_name : isIdentifier name = true := by decide
  nodup_names : (parameters.map Parameter.name).Nodup := by decide
  deriving DecidableEq

namespace Signature

def parameterNames (signature : Signature) : List Text := signature.parameters.map Parameter.name

def parameter? (signature : Signature) (name : Text) : Option Parameter :=
  signature.parameters.find? (·.name == name)

def defaults (signature : Signature) : List (Text × Text) :=
  signature.parameters.map fun parameter => (parameter.name, parameter.default)

/-- Values given by name, put in declaration order with defaults for what is missing.  Values of other names are
passed over. -/
def resolve (signature : Signature) (values : List (Text × Argument)) : Except Parameter.NoText (List Text) :=
  signature.parameters.mapM fun parameter => parameter.resolve (values.lookup parameter.name)

def check (signature : Signature) (values : List Text) : Option Parameter.Problem :=
  (signature.parameters.zip values).findSome? fun (parameter, value) => parameter.check value

/-- Arguments by position with defaults for the missing and the empty; arguments beyond the last
parameter are dropped. -/
def fill (signature : Signature) (arguments : List Text) : List Text :=
  signature.parameters.mapIdx fun i parameter => parameter.orDefault arguments[i]?

def named (signature : Signature) (values : List Text) : List (Text × Text) :=
  signature.parameterNames.zip values

end Signature

end Screener
