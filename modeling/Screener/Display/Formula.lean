import Screener.Catalog.Signature
import Screener.Display.Styled
import Screener.Formula.Basic

namespace Screener

namespace Display

def symbolSigns : List (Text × Text) :=
  [("-", "−"), ("*", "×"), ("/", "÷"), (">=", "≥"), ("<=", "≤"), ("!=", "≠")]

def kindStyle : Token.Kind → Text
  | .function => "cyan"
  | .operator => "green"
  | .comparison => "red"
  | .number => "magenta"

def tokenText (token : Token) : Text :=
  if token.isSymbol then (symbolSigns.lookup token.text).getD token.text else token.text

def appendToken (whole : StyledText) (token : Token) : StyledText :=
  whole.append (tokenText token) (kindStyle token.kind)

def equation : Formula → StyledText
  | [] => .empty
  | first :: rest =>
    rest.foldl (fun whole token => appendToken (whole.append " " "") token)
      (appendToken .empty first)

def numbered (rows : List (List Cell)) : List (List Cell) :=
  rows.mapIdx fun i row => .plain (Text.ofNat i) :: row

def tokenTable (formula : Formula) : Table where
  title := "Tokens"
  columns := [numberColumn, column "Kind" "", column "Value" ""]
  rows := numbered <| formula.map fun token =>
    [.styled (.styled token.kind.name (kindStyle token.kind)), .plain token.text]

def domainName : Parameter.Domain → Text
  | .number false => "number"
  | .number true => "number (locked)"
  | .source => "source"
  | .select _ => "select"

def signatureTable (signature : Signature) : Table where
  title := match signature.description with
    | none | some [] => signature.name
    | some description => signature.name ++ ": " ++ description
  columns :=
    [numberColumn, column "Parameter" "cyan", column "Type" "", column "Default" "green",
      column "Choices" "", column "Description" "dim"]
  rows := numbered <| signature.parameters.map fun parameter =>
    [.plain parameter.name, .plain (domainName parameter.domain), .plain parameter.default,
      .plain (Text.join ", " parameter.domain.options), .plain (parameter.description.getD [])]

end Display

end Screener
