import Screener.Call
import Screener.Formula.Basic

namespace Screener

inductive TokenView.Content
  | plain
  | call (function : Text) (values : List (Text × Text))
  | notCall (text : Text)
  | unknownFunction (name : Text)
  deriving DecidableEq

structure TokenView where
  index : Int
  token : Token
  content : TokenView.Content
  deriving DecidableEq

namespace TokenView

def editable (view : TokenView) : Bool :=
  match view.content with
  | .plain | .call _ _ => true
  | .notCall _ | .unknownFunction _ => false

def functionName (view : TokenView) : Option Text :=
  match view.content with
  | .call name _ | .unknownFunction name => some name
  | .plain | .notCall _ => none

def values (view : TokenView) : List (Text × Text) :=
  match view.content with
  | .call _ values => values
  | _ => []

def reason (view : TokenView) : Option Text :=
  match view.content with
  | .plain | .call _ _ => none
  | .notCall text => some (notCallMessage text)
  | .unknownFunction name => some (unknownFunctionMessage name)

def contentOf (catalog : Catalog) (token : Token) : Content :=
  if token.kind ≠ .function then .plain
  else match catalog.decode? token.text with
    | none => .notCall token.text
    | some reading =>
      if reading.known then .call reading.name reading.namedValues else .unknownFunction reading.name

end TokenView

def Formula.view? (catalog : Catalog) (formula : Formula) (index : Int) : Option TokenView :=
  (formula.at? index).map fun token => ⟨index, token, TokenView.contentOf catalog token⟩

end Screener
