import Apidoc.Calendar
import Apidoc.Files.Folder
import Apidoc.Log

/-!
Where log records go: to the console, and into a file when one is named. A record gets through if
it matters at least as much as the current level.
-/
namespace Apidoc.Log

/-- The level that two wishes lead to: to see little counts more than to see all. -/
def levelFor (verbose quiet : Bool) : Level :=
  if quiet then .error else if verbose then .debug else .warning

/-- The logger with a name. Those that are not named after the root logger are put below it. -/
def loggerNamed : Option String → String
  | none => rootLogger
  | some name =>
    if rootLogger.toList.isPrefixOf name.toList then name else rootLogger ++ "." ++ name

def stamp (now : Moment) : String :=
  let clock := { now.clock with micro := 0 }
  s!"{now.date.shown} {clock.shown}"

def Record.line (now : Moment) (r : Record) : List Char :=
  s!"{stamp now} - {r.logger} - {r.level.label} - {r.message}\n".toList

structure Desk where
  level : Level := .warning
  file : Option (List String) := none
  folder : Folder

namespace Desk

/-- The steps from the folder to a file that can be written, which may be a new one in a directory
that is there. -/
def target (d : Desk) (path : Path) : Except PathFault (List String) :=
  match d.folder.find path, d.folder.inner? path with
  | .file _, some steps => .ok steps
  | .absent .missing, some steps =>
    if d.folder.isDirectory steps.dropLast then .ok steps else .error .missing
  | .absent fault, _ => .error fault
  | .unreadable fault, _ => .error fault
  | .directory, _ => .error .isDirectory
  | .file _, none => .error .missing

/-- Sets the level and the file anew; an empty name is none. The path of the file is taken by name
alone; a file that is there is added to, and any other is there from then on. -/
def setUp (d : Desk) (verbose quiet : Bool) (file : Option String) :
    Except (PathFault × Path) Desk :=
  let level := levelFor verbose quiet
  match file.filter (!·.isEmpty) with
  | none => .ok { d with level, file := none }
  | some name =>
    let path := d.folder.location.absolute (.ofString name)
    match d.target path with
    | .error fault => .error (fault, path)
    | .ok steps => .ok ⟨level, some steps, d.folder.append steps []⟩

def log (d : Desk) (now : Moment) (r : Record) : Desk × List Record :=
  match passing d.level [r], d.file with
  | [], _ => (d, [])
  | through, none => (d, through)
  | through, some steps =>
    let bytes := (String.ofList (r.line now)).toUTF8.toList
    ({ d with folder := d.folder.append steps bytes }, through)

end Desk

end Apidoc.Log
