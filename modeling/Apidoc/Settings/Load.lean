import Apidoc.Files.Folder
import Apidoc.Problem
import Apidoc.Settings
import Apidoc.Toml.Document

/-!
Where settings come from: a file in the home directory, one in the current directory, one that is
named, the environment, and what is given with the call. A later source counts more than an
earlier one, key by key, and only what is left after that is checked.
-/
namespace Apidoc.Settings

/-- What settings are looked for in; `account` is the home directory where the environment names
none. -/
structure Surroundings where
  find : Path → Place
  current : Path
  account : Path
  environment : String → Option String

def homeFile : String := ".docweave.toml"

def projectFile : String := "docweave.toml"

inductive LoadFault where
  | problem (p : Problem)
  | undecodable (fault : Encoding.Fault)
  | longInteger (digits : Nat)
  | untellable
  | path (fault : PathFault) (path : Path)
  | noHome

def LoadFault.message : LoadFault → String
  | problem p => p.text
  | undecodable fault => fault.message
  | longInteger digits => Text.longIntegerMessage digits
  | untellable => Text.untellableIntegerMessage
  | path fault p => fault.message p
  | noHome => "Could not determine home directory."

def homeVariable : String := "HOME"

/-- The home directory. Slashes at the end of its name do not count, and without a name it is the
root. -/
def Surroundings.home (around : Surroundings) : Except LoadFault Path :=
  match around.environment homeVariable with
  | none => .ok around.account
  | some name =>
    match (name.toList.reverse.dropWhile (· == '/')).reverse with
    | [] => .ok (.ofString "/")
    | '~' :: _ => .error .noHome
    | chars => .ok (.ofString (String.ofList chars))

def invalidFile (path : Path) (reason : String) : LoadFault :=
  .problem (.configuration s!"Invalid config file '{path.shown}': {reason}" [])

def readFile (path : Path) : Place → Except LoadFault Values
  | .absent fault => if fault.isBlind then .error (.path fault path) else .ok []
  | .directory => .error (invalidFile path (PathFault.isDirectory.message path))
  | .unreadable fault => .error (invalidFile path (fault.message path))
  | .file bytes =>
    match Encoding.Utf8.decode bytes with
    | .error fault => .error (.undecodable fault)
    | .ok text =>
      match Toml.parse text with
      | .ok entries => .ok entries
      | .error (.invalid message) => .error (invalidFile path message)
      | .error (.longInteger digits) => .error (.longInteger digits)

def readNamed (around : Surroundings) : Option Path → Except LoadFault Values
  | none => .ok []
  | some path =>
    match around.find path with
    | .absent fault =>
      if fault.isBlind then .error (.path fault path)
      else .error (.problem (.configuration s!"Config file not found: {path.shown}" []))
    | place => readFile path place

def Field.envName (field : Field) : String :=
  "DOCWEAVE_" ++ String.ofList (field.key.toList.map Char.toUpper)

def flagOfWord? (word : String) : Option Bool :=
  let lower := Text.lowerString word
  if ["true", "1", "yes", "on"].contains lower then some true
  else if ["false", "0", "no", "off"].contains lower then some false
  else none

def Field.valueOf (field : Field) (text : String) : Except String Value :=
  match field with
  | .maxLength =>
    match Text.readInteger text with
    | .ok n => .ok (.integer n)
    | .error fault => .error fault.message
  | .lowercase | .skipUnresolved =>
    match flagOfWord? text with
    | some b => .ok (.flag b)
    | none => .error s!"expected true/false, got '{text}'"
  | _ => .ok (.text text)

def readVariables (around : Surroundings) : List Field → Except LoadFault Values
  | [] => .ok []
  | field :: rest =>
    match around.environment field.envName with
    | none => readVariables around rest
    | some text =>
      match field.valueOf text with
      | .error reason => .error (.problem (.setting field.envName (.text text) reason))
      | .ok value => (readVariables around rest).map ((field.key, value) :: ·)

def resolveFlag (flag : String) (verbosity : Verbosity) (overrides : Values) : Values :=
  match overrides.find? flag with
  | none => overrides
  | some v =>
    let rest := overrides.filter (·.1 ≠ flag)
    if v.isGiven then Ordered.insert rest Field.verbosity.key (.text verbosity.word) else rest

/-- The overrides that count: flags resolved, and nothing that is given as none. -/
def effective (overrides : Values) : Values :=
  let resolved := resolveFlag "quiet" .quiet (resolveFlag "verbose" .verbose overrides)
  resolved.filter fun
    | (_, .none) => false
    | _ => true

def paths (around : Surroundings) (named : Option Path) : List Path :=
  around.home.toOption.toList.map (·.under homeFile) ++ [around.current.under projectFile]
    ++ named.toList

def gather (around : Surroundings) (named : Option Path) (overrides : Values) :
    Except LoadFault Values := do
  let homePath := (← around.home).under homeFile
  let projectPath := around.current.under projectFile
  let fromHome ← readFile homePath (around.find homePath)
  let fromProject ← readFile projectPath (around.find projectPath)
  let fromNamed ← readNamed around named
  let fromVariables ← readVariables around Field.all
  return [fromHome, fromProject, fromNamed, fromVariables, effective overrides].foldl
    Ordered.merge []

def refuse (key : String) (value : Value) (reason : String) : LoadFault :=
  if value.isTellable then .problem (.setting key value reason) else .untellable

def check (values : Values) : Except LoadFault Settings :=
  let unknown := (values.keys.filter (!isKey ·)).mergeSort (· ≤ ·)
  if unknown.isEmpty then
    (ofValues values).mapError fun fault =>
      refuse fault.key ((values.find? fault.key).getD .none) fault.message
  else
    let keys := ", ".intercalate unknown
    .error (.problem (.configuration s!"Unknown configuration keys: {keys}" [("keys", keys)]))

def load (around : Surroundings) (named : Option Path) (overrides : Values) :
    Except LoadFault Settings := do
  check (← gather around named overrides)

end Apidoc.Settings
