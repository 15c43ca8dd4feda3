import Screener.Cli.Disk
import Screener.Cli.Run
import Screener.Display.Plain

namespace Screener.Cli

def argumentPaths (surroundings : Surroundings) (argument : Text) : List Path :=
  (argument :: ((argument.cutAt '=').map (·.2)).toList).filterMap fun text =>
    ((Disk.system surroundings).expand (Path.ofText text.raw)).toOption

def placesOn (surroundings : Surroundings) (path : Path) : List Place :=
  let parts := surroundings.directory.partsIn path
  (List.range (parts.length + 1)).map fun (count : Nat) => Path.climb (parts.take count)

def places (surroundings : Surroundings) (settingsDirectory : Path) (settings : FileState)
    (line : List Text) : List Place :=
  let system := Disk.system surroundings
  let formulas := (Settings.formulasFile system settingsDirectory settings).toOption
  let catalog := (Settings.catalogFile system settings).toOption.join
  (formulas.toList ++ catalog.toList ++ line.flatMap (argumentPaths surroundings)).flatMap
    (placesOn surroundings)

def Disk.put (disk : Disk) (place : Place) : FileState → Disk
  | .absent | .unreachable => disk
  | .directory => disk.addDirectory place
  | .contents bytes => disk.write place bytes

def Disk.changesSince (after before : Disk) : List (Place × Bytes) :=
  after.files.filter fun (place, bytes) => before.files.lookup place ≠ some bytes

def Disk.directoriesSince (after before : Disk) : List Place :=
  (after.directories.filter fun place => !before.directories.contains place).reverse

def placeText (place : Place) : String := String.ofList (Path.mk "/" place).toText.mended

def readPlace (place : Place) : IO FileState := do
  try
    return .contents (← IO.FS.readBinFile (placeText place))
  catch
    | .noFileOrDirectory .. => return .absent
    | _ => return .directory

def writePlace (place : Place) (bytes : Bytes) : IO Unit := do
  IO.FS.createDirAll (placeText place.dropLast)
  IO.FS.writeBinFile (placeText place) bytes

def readSurroundings : IO Surroundings := do
  let directory := Path.ofText (toString (← IO.FS.realPath "."))
  let home := (← IO.getEnv "HOME").map fun home => (([] : RawText), (home : RawText))
  let accounts ← match ← readPlace ["etc", "passwd"] with
    | .contents bytes => pure ((Text.decode? bytes).getD [])
    | _ => pure []
  return ⟨directory, home.toList ++ Surroundings.homesOf accounts⟩

def readSettingsDirectory (surroundings : Surroundings) : IO Path := do
  match ← IO.getEnv "SIGNALFORMULA_HOME" with
  | some directory => return Path.ofText directory
  | none =>
    return (Path.ofText ((surroundings.homes.lookup []).getD "/")).append [".signalformula"]

def readDisk (surroundings : Surroundings) (settingsDirectory : Path) (line : List Text) :
    IO Disk := do
  let place := (surroundings.directory.resolve (settingsDirectory.append ["config"])).parts
  let settings ← readPlace place
  let mut disk := Disk.put ⟨[], []⟩ place settings
  for place in places surroundings settingsDirectory settings line do
    disk := disk.put place (← readPlace place)
  return disk

def usageText : Text :=
  "usage: signalformula [--verbose] functions | describe | encode | check | config | formula\n"

def printText (text : Text) : IO Unit := IO.print (String.ofList text)

def commandLevels : Nat := Json.depthLimit - 8

def remark (_ : RawText) : FileState → Text
  | .absent => "there is no such file"
  | .directory => "it is a directory"
  | .unreachable => "its path is too long"
  | .contents _ => "it is not in the right form"

def perform (line : List Text) : IO UInt32 := do
  let surroundings ← readSurroundings
  let settingsDirectory ← readSettingsDirectory surroundings
  let disk ← readDisk surroundings settingsDirectory line
  let world : World Disk := ⟨Disk.system surroundings, settingsDirectory, disk, commandLevels, remark, []⟩
  let (outcome, after) := run world line
  for place in after.directoriesSince disk do
    IO.FS.createDirAll (placeText place)
  for (place, bytes) in after.changesSince disk do
    writePlace place bytes
  for outputs in outcome.printed do
    printText (Display.plainText outputs)
  if outcome.printed.isEmpty && outcome.failure.isNone then
    printText usageText
  if let some failure := outcome.failure then
    IO.eprintln (String.ofList failure.message)
  return outcome.exitCode.toUInt32

end Screener.Cli

def main (arguments : List String) : IO UInt32 := Screener.Cli.perform (arguments.map String.toList)
