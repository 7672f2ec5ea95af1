import Apidoc.Files.Path
import Apidoc.Text.Quoted

/-!
What there is at a path: a file, a directory, or nothing, and then why.
-/
namespace Apidoc

/-- Why a path cannot be opened. Permission may be refused to search a directory on the way, or for
the file itself. -/
inductive PathFault where
  | missing
  | behindFile
  | isDirectory
  | tooLong
  | nullCharacter
  | denied
  | linkLoop
  deriving DecidableEq, Repr

namespace PathFault

def code? : PathFault → Option (Nat × String)
  | missing => some (2, "No such file or directory")
  | behindFile => some (20, "Not a directory")
  | isDirectory => some (21, "Is a directory")
  | tooLong => some (36, "File name too long")
  | nullCharacter => none
  | denied => some (13, "Permission denied")
  | linkLoop => some (40, "Too many levels of symbolic links")

def message (fault : PathFault) (path : Path) : String :=
  match fault.code? with
  | some (number, label) => s!"[Errno {number}] {label}: {Text.quoted path.shown}"
  | none => "embedded null byte"

/-- Whether one cannot even tell if there is anything at a path. After any other fault there is
nothing. -/
def isBlind : PathFault → Bool
  | tooLong | denied => true
  | _ => false

end PathFault

inductive Place where
  | absent (fault : PathFault)
  | directory
  | file (bytes : List UInt8)
  | unreadable (fault : PathFault)
  deriving DecidableEq, Repr

/-- The files below a directory, by the steps that lead to them, the directories that are there
without files, and those of both that permission is refused to. The directories above are known to
be there, and nothing else of them. -/
structure Folder where
  location : Path
  files : List (List String × List UInt8)
  directories : List (List String) := []
  closed : List (List String) := []

namespace Folder

def stepLimit : Nat := 255

def pathLimit : Nat := 4095

def isDirectory (folder : Folder) (steps : List String) : Bool :=
  let paths := folder.directories ++ folder.files.map fun file => file.1.dropLast
  steps.isEmpty || paths.any (steps.isPrefixOf ·)

def reached (folder : Folder) (steps : List String) : Place :=
  if folder.isDirectory steps then .directory
  else
    match folder.files.lookup steps with
    | some bytes => if folder.closed.contains steps then .unreadable .denied else .file bytes
    | none => .absent .missing

/-- Takes the steps of a path one by one, after others that led to `here`; without that, one is
above the folder. -/
def walk (folder : Folder) (here : Option (List String)) : List String → Place
  | [] =>
    match here with
    | none => .directory
    | some steps => folder.reached steps
  | step :: rest =>
    match here with
    | none =>
      if step = ".." then walk folder none rest
      else .absent (if step.utf8ByteSize > stepLimit then .tooLong else .missing)
    | some steps =>
      match folder.reached steps with
      | .absent fault => .absent fault
      | .file _ | .unreadable _ => .absent .behindFile
      | .directory =>
        if folder.closed.contains steps then .absent .denied
        else if step = ".." then
          walk folder (if steps.isEmpty then none else some steps.dropLast) rest
        else if step.utf8ByteSize > stepLimit then .absent .tooLong
        else walk folder (some (steps ++ [step])) rest

def inner? (folder : Folder) (path : Path) : Option (List String) :=
  let own := folder.location.steps
  if folder.location.root = path.root && !own.isEmpty && own.isPrefixOf path.steps then
    some (path.steps.drop own.length)
  else if path.root.isEmpty then some path.steps
  else none

/-- What there is at a path, which starts in the folder unless it is absolute. -/
def find (folder : Folder) (path : Path) : Place :=
  if path.hasNull then .absent .nullCharacter
  else if path.shown.utf8ByteSize > pathLimit then .absent .tooLong
  else
    match folder.inner? path with
    | some steps => folder.walk (some []) steps
    | none => folder.walk none path.steps

/-- Puts bytes at the end of a file, which is made if it is not there. -/
def append (folder : Folder) (steps : List String) (bytes : List UInt8) : Folder :=
  if folder.files.any (·.1 == steps) then
    { folder with
      files := folder.files.map fun file =>
        if file.1 == steps then (file.1, file.2 ++ bytes) else file }
  else { folder with files := folder.files ++ [(steps, bytes)] }

end Folder

end Apidoc
