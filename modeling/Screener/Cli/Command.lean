import Screener.Cli.Arguments
import Screener.Entries
import Screener.Text.Blank
import Screener.Text.Encoding

namespace Screener.Cli

inductive Command
  | functions (query : Text)
  | describe (name : Text)
  | encode (name : Text) (settings : List Text)
  | check (equation : Text) (showTokens : Bool)
  | config (formulasFile catalogFile : Option RawText)
  | add (name equation description : Text)
  | list
  | view (name : Text)
  | edit (name : Text) (equation description rename : Option Text)
  | remove (name : Text)
  deriving DecidableEq

inductive Usage
  | help
  | completion
  | wrong
  deriving DecidableEq

def helpSwitch : Switch := ⟨"help", none, false⟩

def flag (long : Text) (short : Option Char) : Switch := ⟨long, short, false⟩

def valued (long : Text) (short : Option Char) : Switch := ⟨long, short, true⟩

def programSwitches : List Switch :=
  [flag "verbose" (some 'v'), flag "install-completion" none, flag "show-completion" none]

def Command.arguments (switches : List Switch) (interspersed : Bool) (arguments : List Text) :
    Except Usage Given :=
  match readArguments (helpSwitch :: switches) interspersed arguments with
  | none => .error .wrong
  | some given =>
    if given.has "help" then .error .help
    else if given.has "install-completion" || given.has "show-completion" then .error .completion
    else .ok given

namespace Command

/-- A line that starts with no command's name.  It is read once more for switches, since what was taken for
a name may be one. -/
def unknown (switches : List Switch) (line : List Text) : Except Usage Command := do
  let _ ← arguments switches false line
  .error .wrong

def ofFormulaArguments (name : Text) (rest : List Text) : Except Usage Command :=
  if name = "add" then do
    let given ← arguments [valued "description" (some 'd')] true rest
    match given.positionals with
    | [name, equation] => return .add name equation ((given.value? "description").getD [])
    | _ => .error .wrong
  else if name = "list" then do
    match (← arguments [] true rest).positionals with
    | [] => return .list
    | _ => .error .wrong
  else if name = "show" then do
    match (← arguments [] true rest).positionals with
    | [name] => return .view name
    | _ => .error .wrong
  else if name = "edit" then do
    let given ← arguments
      [valued "equation" (some 'e'), valued "description" (some 'd'), valued "rename" none] true rest
    match given.positionals with
    | [name] =>
      return .edit name (given.value? "equation") (given.value? "description") (given.value? "rename")
    | _ => .error .wrong
  else if name = "remove" then do
    match (← arguments [] true rest).positionals with
    | [name] => return .remove name
    | _ => .error .wrong
  else unknown [] (name :: rest)

def ofArguments (name : Text) (rest : List Text) : Except Usage Command :=
  if name = "functions" then do
    match (← arguments [] true rest).positionals with
    | [] => return .functions []
    | [query] => return .functions query
    | _ => .error .wrong
  else if name = "describe" then do
    match (← arguments [] true rest).positionals with
    | [name] => return .describe name
    | _ => .error .wrong
  else if name = "encode" then do
    let given ← arguments [valued "param" (some 'p')] true rest
    match given.positionals with
    | [name] => return .encode name (given.values "param")
    | _ => .error .wrong
  else if name = "check" then do
    let given ← arguments [flag "tokens" (some 't')] true rest
    match given.positionals with
    | [equation] => return .check equation (given.has "tokens")
    | _ => .error .wrong
  else if name = "config" then do
    let given ← arguments [valued "formulas-file" none, valued "catalog-file" none] true rest
    match given.positionals with
    | [] => return .config ((given.value? "formulas-file").map Text.raw) ((given.value? "catalog-file").map Text.raw)
    | _ => .error .wrong
  else if name = "formula" then do
    match (← arguments [] false rest).positionals with
    | [] => .error .wrong
    | name :: rest => ofFormulaArguments name rest
  else unknown programSwitches (name :: rest)

def ofCommandLine (line : List Text) : Except Usage Command := do
  match (← arguments programSwitches false line).positionals with
  | [] => .error .wrong
  | name :: rest => ofArguments name rest

end Command

def readSetting (setting : Text) : Except Text (Text × Text) :=
  match setting.cutAt '=' with
  | some (name, value) => .ok (name.trim, value.trim)
  | none => .error setting

def readSettings (settings : List Text) : Except Text (Entries Text) :=
  (settings.mapM readSetting).map Entries.ofList

end Screener.Cli
