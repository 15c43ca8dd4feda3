import Screener.Catalog.Definition
import Screener.Cli.Command
import Screener.Display.Formula
import Screener.Notebook
import Screener.Settings

namespace Screener.Cli

inductive Failure
  | notebook (fault : Fault)
  | settings (fault : Settings.Fault)
  | catalog (error : CatalogFileError)
  | file (fault : FileFault)
  | value (cause : Argument.Unwritten)

def Failure.message : Failure → Text
  | .notebook fault => fault.message
  | .settings fault => fault.message
  | .catalog error => (error.message? []).getD "catalog file cannot be read"
  | .file fault => fault.message
  | .value cause => cause.message

inductive Stop
  | exit (code : Nat)
  | failure (failure : Failure)

structure World (σ : Type) where
  system : System σ
  settingsDirectory : Path
  files : σ
  levels : Nat
  remark : RawText → FileState → Text
  printed : List (List Output)

abbrev Action (σ : Type) := ExceptT Stop (StateM (World σ))

namespace Action

variable {σ α : Type}

def print (outputs : List Output) : Action σ Unit :=
  modify fun world => { world with printed := world.printed ++ [outputs] }

def printLine (text : Text) : Action σ Unit := print [.markup text]

def printError (message : Text) : Action σ Unit := printLine ("[red]Error:[/red] " ++ message)

def exit (code : Nat) : Action σ α := throw (.exit code)

def fileState (path : Path) : Action σ FileState := do
  let world ← get
  return world.system.look world.files path

def saveFile (path : Path) (bytes : Bytes) : Action σ Unit := do
  let world ← get
  let (result, files) := world.system.save path bytes world.files
  set { world with files := files }
  match result with
  | .ok () => return
  | .error fault => throw (.failure (.file fault))

def replaceFile (path : Path) (old new : FileState) : Action σ Unit :=
  match new with
  | .contents bytes => if new = old then pure () else saveFile path bytes
  | .absent | .directory | .unreachable => pure ()

def settingsPath : Action σ Path := return (← get).settingsDirectory.append ["config"]

def settingsFile : Action σ FileState := do fileState (← settingsPath)

def orFail : Except Settings.Fault α → Action σ α
  | .ok value => return value
  | .error fault => throw (.failure (.settings fault))

def catalogPath : Action σ (Option Path) := do
  orFail (Settings.catalogFile (← get).system (← settingsFile))

def formulasPath : Action σ Path := do
  let world ← get
  orFail (Settings.formulasFile world.system world.settingsDirectory (← settingsFile))

def readCatalog (path : Path) (inside : Nat) : Action σ (Except CatalogFileError Catalog × Text) := do
  if path.hasNull then throw (.failure (.file .nullCharacter))
  let world ← get
  let file ← fileState path
  return (Catalog.ofFile path.toText file (world.levels - inside), world.remark path.toText file)

def loadCatalog (inside : Nat) : Action σ Catalog := do
  match ← catalogPath with
  | none => return Catalog.builtIn
  | some path =>
    let (result, remark) ← readCatalog path (inside + 2)
    match result with
    | .ok catalog => return catalog
    | .error error =>
      match error.message? remark with
      | some message => do
        printLine ("[red]Error loading catalog:[/red] " ++ message)
        exit 1
      | none => throw (.failure (.catalog error))

def loadNotebook (inside : Nat) : Action σ (Notebook × Path) := do
  let path ← formulasPath
  return (Notebook.withCatalog (← loadCatalog (inside + 1)), path)

def onStore (path : Path) (operation : Store α) : Action σ (Except Fault α) := do
  let state ← fileState path
  let (result, after) := operation.run state ((← get).levels - 1)
  replaceFile path state after
  match result with
  | .error .isDirectory => throw (.failure (.file (.isDirectory path.toText)))
  | .error .unreachable => throw (.failure (.file (.nameTooLong path.toText)))
  | result => return result

def reporting : Except Fault α → Action σ α
  | .ok value => return value
  | .error (.invalid errors) => do
    for (field, message) in errors.entries do
      printError (field ++ ": " ++ message)
    exit 1
  | .error (.notFound name) => do
    printError (notFoundMessage name)
    exit 1
  | .error (.duplicate name) => do
    printError (duplicateMessage name)
    exit 1
  | .error fault => throw (.failure (.notebook fault))

def done (verb name : Text) : Text := "[green]✓ " ++ verb ++ " formula " ++ name.quote ++ "[/green]"

def functions (query : Text) : Action σ Unit := do
  let catalog ← loadCatalog 0
  let found := catalog.matching query
  if found.isEmpty then
    printLine ("[yellow]No functions match " ++ query.quote ++ ".[/yellow]")
    exit 1
  print [.table {
    title := "Functions"
    columns := [column "Name" "cyan", column "Parameters" "white", column "Description" "dim"]
    rows := found.map fun signature =>
      [.plain signature.name, .plain (Text.join ", " signature.parameterNames),
        .plain (signature.description.getD [])] }]

def describe (name : Text) : Action σ Unit := do
  match (← loadCatalog 0).lookup name with
  | some signature => print [.table (Display.signatureTable signature)]
  | none => do
    printError (unknownFunctionMessage name)
    exit 1

def unknownParameters (signature : Signature) (values : List (Text × Text)) : List Text :=
  (values.map (·.1)).filter fun name => (signature.parameter? name).isNone

def encode (name : Text) (settings : List Text) : Action σ Unit := do
  let catalog ← loadCatalog 0
  match readSettings settings with
  | .error _ => exit 2
  | .ok values =>
    match catalog.lookup name with
    | none => pure ()
    | some signature =>
      let unknown := unknownParameters signature values
      if !unknown.isEmpty then
        printError (signature.name ++ " has no parameter " ++ Text.join ", " unknown)
        exit 1
    match Formula.callToken catalog name (values.map fun (name, value) => (name, .str value)) with
    | .ok token => printLine token.text
    | .error (.rejected rejection) => do
      printError rejection.message
      exit 1
    | .error (.failed cause) => throw (.failure (.value cause))

def check (equation : Text) (showTokens : Bool) : Action σ Unit := do
  let (notebook, _) ← loadNotebook 0
  match notebook.check equation with
  | .error error => do
    printError error.message
    exit 1
  | .ok (formula, problem) =>
    if showTokens then print [.table (Display.tokenTable formula)]
    match problem with
    | none => print [.panel "[green]✓ Valid formula[/green]" (Display.equation formula)]
    | some problem => do
      printLine ("[red]✗ Invalid formula:[/red] " ++ problem.message)
      exit 1

def isExpected : Settings.Fault → Bool
  | .unwritable _ => true
  | .path fault => fault.isExpected
  | .notUtf8 | .unencodable _ => false

def settingsFault (fault : Settings.Fault) : Action σ Unit := do
  if isExpected fault then
    printError fault.message
    exit 1
  else throw (.failure (.settings fault))

def changeSettings (change : FileState → Except Settings.Fault Unit × FileState) : Action σ Unit := do
  let state ← settingsFile
  let (result, after) := change state
  replaceFile (← settingsPath) state after
  match result with
  | .ok () => return
  | .error fault => settingsFault fault

def setPath (key : Text) (text : RawText) : Action σ Unit := do
  let world ← get
  changeSettings fun file => Settings.setPath world.system world.files world.settingsDirectory file key text

def setCatalogFile (text : RawText) : Action σ Unit := do
  match (← get).system.expand (Path.ofText text) with
  | .error fault => settingsFault (.path fault)
  | .ok path =>
    let (result, remark) ← readCatalog path 0
    match result with
    | .ok _ => setPath Settings.catalogKey text
    | .error (.tooDeep opened) => do
      printError (Json.tooDeepMessage opened)
      exit 1
    | .error error =>
      match error.message? remark with
      | some message => do
        printError message
        exit 1
      | none => throw (.failure (.catalog error))

def showSettings : Action σ Unit := do
  let catalog ← catalogPath
  let formulas ← formulasPath
  printLine ("[bold]Formulas file:[/bold] " ++ formulas.toText.mended)
  printLine ("[bold]Catalog file:[/bold]  " ++ ((catalog.map Path.toText).getD "built-in").mended)

def config (formulasFile catalogFile : Option RawText) : Action σ Unit := do
  if let some text := catalogFile then setCatalogFile text
  if let some text := formulasFile then setPath Settings.formulasKey text
  showSettings

def add (name equation description : Text) : Action σ Unit := do
  let (notebook, path) ← loadNotebook 1
  let record ← reporting (← onStore path (notebook.create name equation (.str description)))
  printLine (done "Saved" record.name)

def list : Action σ Unit := do
  let (_, path) ← loadNotebook 1
  let records ← reporting (← onStore path Notebook.list)
  if records.isEmpty then
    printLine "[yellow]No formulas yet.[/yellow]"
    printLine "\nCreate one with: [cyan]signalformula formula add <name> <equation>[/cyan]"
  else
    print [.table {
      title := "Formulas"
      columns := [column "Name" "cyan", column "Formula" "", column "Description" "dim",
        column "Hash" "dim"]
      rows := records.map fun record =>
        [.plain record.name, .styled (Display.equation record.tokens), .plain record.description,
          .plain record.fingerprint] }]

def view (name : Text) : Action σ Unit := do
  let (_, path) ← loadNotebook 1
  let record ← reporting (← onStore path (Notebook.get name))
  printLine ("\n[bold]Formula:[/bold] [cyan]" ++ record.name ++ "[/cyan]")
  if !record.description.isEmpty then printLine ("  Description: " ++ record.description)
  print [.markup "  Equation:    ", .text (Display.equation record.tokens)]
  printLine ("  Tokens:      " ++ Text.ofNat record.tokens.length)
  printLine ("  Hash:        " ++ record.fingerprint ++ "\n")

def edit (name : Text) (equation description rename : Option Text) : Action σ Unit := do
  let (notebook, path) ← loadNotebook 1
  let record ← reporting
    (← onStore path (notebook.update name equation (description.map .str) rename))
  printLine (done "Updated" record.name)

def remove (name : Text) : Action σ Unit := do
  let (_, path) ← loadNotebook 1
  reporting (← onStore path (Notebook.delete name))
  printLine (done "Removed" name)

end Action

def Command.action {σ : Type} : Command → Action σ Unit
  | .functions query => Action.functions query
  | .describe name => Action.describe name
  | .encode name settings => Action.encode name settings
  | .check equation showTokens => Action.check equation showTokens
  | .config formulasFile catalogFile => Action.config formulasFile catalogFile
  | .add name equation description => Action.add name equation description
  | .list => Action.list
  | .view name => Action.view name
  | .edit name equation description rename => Action.edit name equation description rename
  | .remove name => Action.remove name

structure Outcome where
  exitCode : Nat
  printed : List (List Output)
  failure : Option Failure

def outcome {σ : Type} (world : World σ) : Except Stop Unit → Outcome
  | .ok () => ⟨0, world.printed, none⟩
  | .error (.exit code) => ⟨code, if code = 2 then [] else world.printed, none⟩
  | .error (.failure failure) => ⟨1, world.printed, some failure⟩

def Command.run {σ : Type} (command : Command) (world : World σ) : Outcome × σ :=
  let (result, after) := command.action.run world
  (outcome after result, after.files)

def run {σ : Type} (world : World σ) (line : List Text) : Outcome × σ :=
  match Command.ofCommandLine line with
  | .error .help => (⟨0, [], none⟩, world.files)
  | .error .completion => (⟨1, [], none⟩, world.files)
  | .error .wrong => (⟨2, [], none⟩, world.files)
  | .ok command => command.run world

end Screener.Cli
