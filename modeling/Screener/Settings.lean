import Screener.Entries
import Screener.File
import Screener.Text.Blank

/-!
Settings: a text file with one `key=value` a line.  Lines are trimmed, lines without an equals sign are
passed over, and of a repeated key the first place and the last value count.  The program has two of them: where saved
formulas are kept, and which catalog replaces the built-in one.  Both are paths; setting one stores it resolved, and
reading one only expands the home directory.
-/

namespace Screener

namespace Settings

def unifyLineEnds : Text → Text
  | '\r' :: '\n' :: rest => '\n' :: unifyLineEnds rest
  | '\r' :: rest => '\n' :: unifyLineEnds rest
  | c :: rest => c :: unifyLineEnds rest
  | [] => []

def ofText (text : Text) : Entries Text :=
  Entries.ofList <|
    (Text.splitOn '\n' (unifyLineEnds text)).filterMap fun line => Text.cutAt '=' (Text.trim line)

def toText (entries : Entries Text) : Text :=
  entries.flatMap fun (key, value) => key ++ "=" ++ value ++ "\n"

def entryLine (entry : RawText × RawText) : RawText := entry.1 ++ "=" ++ entry.2 ++ "\n"

/-- What lines are written as, up to the first that has a surrogate, and that line. -/
def writeLines : List RawText → Text × Option RawText
  | [] => ([], none)
  | line :: rest =>
    match line.toText? with
    | none => ([], some line)
    | some text =>
      let (more, unwritten) := writeLines rest
      (text ++ more, unwritten)

inductive Fault
  | notUtf8
  | unencodable (line : RawText)
  | unwritable (fault : FileFault)
  | path (fault : Path.Fault)
  deriving DecidableEq

def unencodableMessage (line : RawText) : Text :=
  let start := (line.takeWhile (·.toChar?.isSome)).length
  let run := (line.drop start).takeWhile (·.toChar?.isNone)
  let place := match run with
    | [half] => "character '\\u" ++ Text.hex 4 half.toNat ++ "' in position " ++ Text.ofNat start
    | _ => "characters in position " ++ Text.ofNat start ++ "-" ++ Text.ofNat (start + run.length - 1)
  "'utf-8' codec can't encode " ++ place ++ ": surrogates not allowed"

def Fault.message : Fault → Text
  | .notUtf8 => "config file is not UTF-8"
  | .unencodable line => unencodableMessage line
  | .unwritable fault => "failed to write config file: " ++ fault.message
  | .path fault => fault.message

def ofFile : FileState → Except Fault (Entries Text)
  | .absent | .directory | .unreachable => .ok []
  | .contents bytes =>
    match Text.decode? bytes with
    | some text => .ok (ofText text)
    | none => .error .notUtf8

def get (file : FileState) (key : RawText) : Except Fault (Option Text) :=
  (ofFile file).map fun entries => key.toText?.bind fun key => entries.lookup key

def rawEntries (entries : Entries Text) : Entries RawText RawText := entries.map fun (key, value) => (key.raw, value.raw)

/-- Sets an entry in the file at a path: what comes of it, and the file that it leaves.  The file is emptied before the
entries are written one by one. -/
def set (path : RawText) (file : FileState) (key value : RawText) : Except Fault Unit × FileState :=
  match ofFile file with
  | .error fault => (.error fault, file)
  | .ok entries =>
    match file with
    | .directory => (.error (.unwritable (.isDirectory path)), file)
    | .unreachable => (.error (.unwritable (.nameTooLong path)), file)
    | .absent | .contents _ =>
      let (text, unwritten) := writeLines (((rawEntries entries).put key value).map entryLine)
      (match unwritten with
        | none => .ok ()
        | some line => .error (.unencodable line), .contents text.encode)

def formulasKey : Text := "SIGNALFORMULA_FORMULAS_FILE"

def catalogKey : Text := "SIGNALFORMULA_CATALOG_FILE"

variable {σ : Type}

def path? (system : System σ) (file : FileState) (key : Text) : Except Fault (Option Path) := do
  match ← get file key.raw with
  | none | some [] => return none
  | some text => return some (← (system.expand (Path.ofText text.raw)).mapError .path)

def catalogFile (system : System σ) (file : FileState) : Except Fault (Option Path) := path? system file catalogKey

def formulasFile (system : System σ) (directory : Path) (file : FileState) : Except Fault Path := do
  return (← path? system file formulasKey).getD (directory.append ["formulas.json"])

def setPath (system : System σ) (files : σ) (directory : Path) (file : FileState) (key : Text) (text : RawText) :
    Except Fault Unit × FileState :=
  match system.locate files text with
  | .error fault => (.error (.path fault), file)
  | .ok path => set (directory.append ["config"]).toText file key.raw path.toText

end Settings

end Screener
