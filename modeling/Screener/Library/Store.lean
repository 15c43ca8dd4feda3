import Screener.File
import Screener.Json.Reader
import Screener.Json.Writer
import Screener.Library.Basic

/-!
A library kept in a file.  Every operation reads the file first, and one that fails leaves it as it was.  A
file that does not hold a library reads as an empty one.  How deep the values in a file may nest depends on what stands
around the reading.
-/

namespace Screener

namespace Library

def fileText (library : Library) : Text := Json.indented 0 library.toJson

def encode (library : Library) : Bytes := library.fileText.encode

def ofText (levels : Nat) (text : Text) : Except Fault Library :=
  match Json.read text levels with
  | .error (.tooDeep opened) => .error (.tooDeep opened)
  | .error _ => .ok []
  | .ok value =>
    match ofJson value.mended with
    | .ok library => .ok library
    | .error (.descriptionNotText kind) => .error (.descriptionNotText kind)
    | .error (.issues _) => .ok []

def ofFile (levels : Nat) : FileState → Except Fault Library
  | .absent => .ok []
  | .directory => .error .isDirectory
  | .unreachable => .error .unreachable
  | .contents bytes =>
    match Text.decode? bytes with
    | none => .ok []
    | some text => ofText levels text

end Library

/-- An operation on the file of a library: it may fail, and what it did to the file stays.  It reads with so many levels
of nesting. -/
abbrev Store := ReaderT Nat (ExceptT Fault (StateM FileState))

namespace Store

def run {α : Type} (operation : Store α) (file : FileState) (levels : Nat := Json.depthLimit) :
    Except Fault α × FileState :=
  (ReaderT.run operation levels).run file

/-- An operation that stands around another one takes up one level of nesting. -/
def around {α : Type} (operation : Store α) : Store α := withReader (· - 1) operation

theorem run_around {α : Type} (operation : Store α) (file : FileState) (levels : Nat) :
    (around operation).run file levels = operation.run file (levels - 1) := rfl

def load : Store Library := do
  MonadExcept.ofExcept (Library.ofFile (← read) (← get))

def save (library : Library) : Store Unit := set (FileState.contents library.encode)

def change (edit : Library → Except Fault Library) : Store Unit := do
  save (← MonadExcept.ofExcept (edit (← load)))

def list : Store Library := around load

def get? (name : Text) : Store (Option Record) := around do return (← load).get? name

def add (record : Record) : Store Unit := around (change (·.add record))

def replace (name : Text) (record : Record) : Store Unit := around (change (·.replace name record))

def remove (name : Text) : Store Unit := around (change (·.remove name))

end Store

end Screener
