import Screener.Text.Printable

/-!
Files by their paths, as the operating system gives access to them.  Reading a path drops empty and `.` components and
keeps `..`; only resolving it takes the `..` away.  A leading `~` stands for a home directory.  What is there and where
a path leads is for the system to say, which is left open.
-/

namespace Screener

structure Path where
  root : Text
  parts : List RawText
  deriving DecidableEq

namespace Path

/-- Two leading slashes are kept as they are; any other number counts as one. -/
def rootOf (text : RawText) : Text :=
  match (text.takeWhile (· = .char '/')).length with
  | 0 => ""
  | 2 => "//"
  | _ => "/"

def ofText (text : RawText) : Path :=
  ⟨rootOf text, (Text.splitOn (.char '/') text).filter fun part => part ≠ [] && part ≠ [.char '.']⟩

def toText (path : Path) : RawText :=
  match path.root, path.parts with
  | [], [] => "."
  | root, parts => root.raw ++ Text.join [.char '/'] parts

def isAbsolute (path : Path) : Bool := !path.root.isEmpty

def append (path : Path) (parts : List RawText) : Path := ⟨path.root, path.parts ++ parts⟩

def hasNull (path : Path) : Bool := path.parts.any (·.contains (.char '\x00'))

def parent (path : Path) : Path := { path with parts := path.parts.dropLast }

inductive Fault
  | noHome
  | linkLoop (path : RawText)
  | nullCharacter
  /-- Any other reason, in the words of the operating system. -/
  | other (message : Text)
  deriving DecidableEq

def Fault.message : Fault → Text
  | .noHome => "Could not determine home directory."
  | .linkLoop path => "Symlink loop from " ++ path.quoted
  | .nullCharacter => "embedded null byte"
  | .other message => message

def Fault.isExpected : Fault → Bool
  | .noHome | .linkLoop _ => true
  | .nullCharacter | .other _ => false

end Path

inductive FileState
  | absent
  | directory
  | unreachable
  | contents (bytes : Bytes)
  deriving DecidableEq

inductive FileFault
  | isDirectory (path : RawText)
  | isFile (path : RawText)
  | notDirectory (path : RawText)
  | nameTooLong (path : RawText)
  /-- More directories are missing than can be made for one path. -/
  | tooManyMissing
  | nullCharacter
  | other (message : Text)
  deriving DecidableEq

def FileFault.message : FileFault → Text
  | .isDirectory path => "[Errno 21] Is a directory: " ++ path.quoted
  | .isFile path => "[Errno 17] File exists: " ++ path.quoted
  | .notDirectory path => "[Errno 20] Not a directory: " ++ path.quoted
  | .nameTooLong path => "[Errno 36] File name too long: " ++ path.quoted
  | .tooManyMissing => "too many directories are missing"
  | .nullCharacter => "embedded null byte"
  | .other message => message

structure System (σ : Type) where
  /-- The home directory of a user, of the current one under the empty name. -/
  home : RawText → Except Path.Fault RawText
  /-- The absolute path, without `..` and links, that a path leads to. -/
  resolve : σ → Path → Except Path.Fault Path
  look : σ → Path → FileState
  /-- Puts a file where a path leads, and makes the directories on the way.  What was made stays when that fails. -/
  save : Path → Bytes → σ → Except FileFault Unit × σ

namespace System

variable {σ : Type}

def expand (system : System σ) (path : Path) : Except Path.Fault Path :=
  if path.isAbsolute then .ok path
  else match path.parts with
    | (.char '~' :: user) :: rest => (system.home user).map fun home => (Path.ofText home).append rest
    | _ => .ok path

def locate (system : System σ) (files : σ) (text : RawText) : Except Path.Fault Path := do
  system.resolve files (← system.expand (Path.ofText text))

end System

end Screener
