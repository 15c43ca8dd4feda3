import Screener.File

/-!
An operating system without links: files by their places.  A directory is there when it is named or
holds something.  Saving a file makes the directories on the way to it, and those that were made stay when
the file cannot be saved after all.
-/

namespace Screener

namespace Path

def climb (parts : List RawText) : List RawText :=
  parts.foldl (fun above part => if part = [.char '.', .char '.'] then above.dropLast else above ++ [part]) []

def partsIn (directory path : Path) : List RawText :=
  if path.isAbsolute then path.parts else directory.parts ++ path.parts

def resolve (directory path : Path) : Path := ⟨"/", climb (directory.partsIn path)⟩

/-- The bytes of a text in a path, where a surrogate stands for a byte that is no part of a character. -/
def byteSize : RawText → Nat
  | [] => 0
  | .char c :: rest => c.utf8Size + byteSize rest
  | .surrogate _ :: rest => 1 + byteSize rest

def isLongName (part : RawText) : Bool := decide (255 < byteSize part)

def isTooLong (path : Path) : Bool := decide (4095 < byteSize path.toText)

end Path

/-- Where paths start from: the working directory, and the home directory of each user, the current one
under the empty name. -/
structure Surroundings where
  directory : Path
  homes : List (RawText × RawText)

/-- The home directories of accounts, one a line: fields between colons, the name first and the home
directory sixth. -/
def Surroundings.homesOf (accounts : Text) : List (RawText × RawText) :=
  (Text.splitOn '\n' accounts).filterMap fun line =>
    match Text.splitOn ':' line with
    | name :: _ :: _ :: _ :: _ :: home :: _ => some (Text.raw name, Text.raw home)
    | _ => none

def Surroundings.home (surroundings : Surroundings) (user : RawText) : Except Path.Fault RawText :=
  match surroundings.homes.lookup user with
  | some home => .ok home
  | none => .error (if user.contains (.char '\x00') then .nullCharacter else .noHome)

def Surroundings.resolve (surroundings : Surroundings) (path : Path) : Except Path.Fault Path :=
  if path.hasNull then .error .nullCharacter else .ok (surroundings.directory.resolve path)

namespace Cli

abbrev Place := List RawText

structure Disk where
  files : List (Place × Bytes)
  directories : List Place

namespace Disk

def state (disk : Disk) (place : Place) : FileState :=
  match disk.files.lookup place with
  | some bytes => .contents bytes
  | none =>
    if (disk.directories ++ disk.files.map (·.1)).any place.isPrefixOf then .directory else .absent

def enter (place : Place) (part : RawText) : Place :=
  if part = [.char '.', .char '.'] then place.dropLast else place ++ [part]

def follow (disk : Disk) (place : Place) : List RawText → FileState
  | [] => disk.state place
  | part :: rest =>
    if disk.state place ≠ .directory then .absent
    else if Path.isLongName part then .unreachable
    else follow disk (enter place part) rest

def start (directory path : Path) : Place :=
  if path.isAbsolute then [] else Path.climb directory.parts

def look (disk : Disk) (directory path : Path) : FileState :=
  if path.hasNull then .absent
  else if path.isTooLong then .unreachable
  else disk.follow (start directory path) path.parts

def write (disk : Disk) (place : Place) (bytes : Bytes) : Disk :=
  { disk with files := (place, bytes) :: disk.files.filter (·.1 ≠ place) }

def addDirectory (disk : Disk) (place : Place) : Disk :=
  { disk with directories := place :: disk.directories }

end Disk

abbrev DiskChange := ExceptT FileFault (StateM Disk)

namespace DiskChange

def checkText (path : Path) : DiskChange Unit :=
  if path.hasNull then throw .nullCharacter
  else if path.isTooLong then throw (.nameTooLong path.toText)
  else pure ()

/-- With this many components after the first directory that is missing, none is made. -/
def missingLimit : Nat := 978

/-- Makes the directories that are missing on a path whose first components lead to a place, and gives the
place where it ends.  A failure names the whole path if nothing had to be made before it, and else the path
up to the component that fails. -/
def makeWay (path : Path) (passed : List RawText) (made : Bool) (place : Place) :
    List RawText → DiskChange Place
  | [] => return place
  | part :: rest => do
    let passed := passed ++ [part]
    let named : Path := if made then { path with parts := passed } else path
    if Path.isLongName part then throw (.nameTooLong named.toText)
    let next := Disk.enter place part
    match (← get).state next with
    | .absent => do
      if !made && missingLimit ≤ rest.length then throw .tooManyMissing
      modify (·.addDirectory next)
      makeWay path passed true next rest
    | .contents _ =>
      if made || rest.isEmpty then throw (.isFile named.toText)
      else throw (.notDirectory named.toText)
    | _ => makeWay path passed made next rest

def save (directory path : Path) (bytes : Bytes) : DiskChange Unit := do
  checkText path.parent
  let place ← makeWay path.parent [] false (Disk.start directory path) path.parent.parts
  checkText path
  match path.parts.getLast? with
  | none => throw (.isDirectory path.toText)
  | some name =>
    if Path.isLongName name then throw (.nameTooLong path.toText)
    let place := Disk.enter place name
    match (← get).state place with
    | .directory => throw (.isDirectory path.toText)
    | _ => modify (·.write place bytes)

end DiskChange

def Disk.system (surroundings : Surroundings) : System Disk where
  home := surroundings.home
  resolve _ path := surroundings.resolve path
  look disk path := disk.look surroundings.directory path
  save path bytes disk := (DiskChange.save surroundings.directory path bytes).run disk

end Cli

end Screener
