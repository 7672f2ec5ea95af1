import Apidoc.Command

/-!
The program: it looks at the places that a command needs, runs the command and prints what comes
of it. Log records go to standard error.
-/
namespace Apidoc.Main

def faultOf : IO.Error → PathFault
  | .permissionDenied _ _ _ => .denied
  | .invalidArgument _ 36 _ => .tooLong
  | _ => .missing

def contents (read : IO ByteArray) : IO Place := do
  try
    return .file (← read).toList
  catch fault => return .unreadable (faultOf fault)

def lookAt (path : Path) : IO Place := do
  try
    let real ← IO.FS.realPath path.shown
    if ← real.isDir then return .directory else contents (IO.FS.readBinFile real)
  catch fault => return .absent (faultOf fault)

def environmentOf (names : List String) : IO (List (String × String)) :=
  names.filterMapM fun name => return (← IO.getEnv name).map fun value => (name, value)

def surroundings (arguments : List String) : IO Settings.Surroundings := do
  let current := Path.ofString (← IO.currentDir).toString
  let environment ← environmentOf (Settings.homeVariable :: Settings.Field.all.map (·.envName))
  let around : Settings.Surroundings :=
    ⟨fun _ => .absent .missing, current, .ofString "/", fun name => environment.lookup name⟩
  let paths := ((Command.ofArguments arguments).toOption.map (·.paths around)).getD []
  let places ← paths.mapM fun path => return (path, ← lookAt path)
  return { around with find := fun path => (places.lookup path).getD (.absent .missing) }

def host : IO Command.Host := do
  let width := ((← IO.getEnv "COLUMNS").bind (·.toNat?)).getD 80
  return ⟨width, Console.noPictographs, Encoding.noDecoders⟩

end Apidoc.Main

def main (arguments : List String) : IO UInt32 := do
  let around ← Apidoc.Main.surroundings arguments
  let outcome := Apidoc.Command.runArguments around (← Apidoc.Main.host) arguments
  for record in outcome.records do
    IO.eprintln s!"{record.level.label} {record.message}"
  IO.print (String.ofList outcome.output)
  for failure in outcome.failure do
    IO.eprintln failure.message
  return outcome.exit.toUInt32
