import Screener.Text.Basic

namespace Screener.Cli

structure Switch where
  long : Text
  short : Option Char
  takesValue : Bool

structure Given where
  switches : List (Text × Text)
  positionals : List Text

namespace Given

def add (given : Given) (switches : List (Text × Text)) : Given :=
  { given with switches := switches ++ given.switches }

def addPositional (given : Given) (argument : Text) : Given :=
  { given with positionals := argument :: given.positionals }

def has (given : Given) (long : Text) : Bool := given.switches.any (·.1 == long)

def values (given : Given) (long : Text) : List Text :=
  given.switches.filterMap fun (name, value) => if name = long then some value else none

def value? (given : Given) (long : Text) : Option Text := (given.values long).getLast?

end Given

abbrev SwitchReading := List (Text × Text) × Option Text

/-- The switches of letters run together; one that takes a value takes the letters after it. -/
def readLetters (switches : List Switch) : Text → Option SwitchReading
  | [] => some ([], none)
  | letter :: rest =>
    match switches.find? (·.short == some letter) with
    | none => none
    | some switch =>
      if switch.takesValue then
        if rest.isEmpty then some ([], some switch.long) else some ([(switch.long, rest)], none)
      else (readLetters switches rest).map fun (given, pending) => ((switch.long, []) :: given, pending)

def readSwitch (switches : List Switch) (argument : Text) : Option SwitchReading :=
  let (name, value) := match argument.cutAt '=' with
    | some (name, value) => (name, some value)
    | none => (argument, none)
  match switches.find? fun switch => "--" ++ switch.long == name with
  | some switch =>
    match switch.takesValue, value with
    | true, some value => some ([(switch.long, value)], none)
    | true, none => some ([], some switch.long)
    | false, some _ => none
    | false, none => some ([(switch.long, [])], none)
  | none => if argument.take 2 = ['-', '-'] then none else readLetters switches (argument.drop 1)

/-- Reads arguments.  Where switches may not stand between positionals, everything from the first
positional on is left as it is. -/
def readArguments (switches : List Switch) (interspersed : Bool) : List Text → Option Given
  | [] => some ⟨[], []⟩
  | argument :: rest =>
    if argument = ['-', '-'] then some ⟨[], rest⟩
    else if argument.head? = some '-' ∧ 1 < argument.length then
      match readSwitch switches argument with
      | none => none
      | some (given, none) => (readArguments switches interspersed rest).map (·.add given)
      | some (given, some pending) =>
        match rest with
        | [] => none
        | value :: rest =>
          (readArguments switches interspersed rest).map (·.add (given ++ [(pending, value)]))
    else if interspersed then
      (readArguments switches interspersed rest).map (·.addPositional argument)
    else some ⟨[], argument :: rest⟩

end Screener.Cli
