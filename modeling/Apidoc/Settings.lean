import Apidoc.Encoding
import Apidoc.MemberId
import Apidoc.Ordered
import Apidoc.Stem
import Apidoc.Value

/-!
Settings for reading files and building catalogs, and the checks that given values must pass.
-/
namespace Apidoc

inductive Verbosity where
  | quiet
  | normal
  | verbose
  deriving DecidableEq, Repr

namespace Verbosity

def word : Verbosity → String
  | quiet => "quiet"
  | normal => "normal"
  | verbose => "verbose"

def all : List Verbosity := [quiet, normal, verbose]

def ofWord? (s : String) : Option Verbosity :=
  all.find? (·.word == s)

end Verbosity

structure Settings where
  encoding : String := "utf-8"
  replacement : String := "_"
  maxLength : Int := 128
  lowercase : Bool := false
  skipUnresolved : Bool := true
  verbosity : Verbosity := .normal
  deriving DecidableEq, Repr

namespace Settings

def stemOptions (s : Settings) : Stem.Options :=
  ⟨s.replacement, s.maxLength, s.lowercase⟩

inductive Field where
  | encoding
  | replacement
  | maxLength
  | lowercase
  | skipUnresolved
  | verbosity
  deriving DecidableEq, Repr

namespace Field

def all : List Field :=
  [encoding, replacement, maxLength, lowercase, skipUnresolved, verbosity]

def key : Field → String
  | encoding => "encoding"
  | replacement => "normalized_id_replacement"
  | maxLength => "normalized_id_max_length"
  | lowercase => "lowercase_normalized_ids"
  | skipUnresolved => "skip_unresolved"
  | verbosity => "verbosity"

def typeName : Field → String
  | encoding => "str"
  | replacement => "str"
  | maxLength => "int"
  | lowercase => "bool"
  | skipUnresolved => "bool"
  | verbosity => "str"

end Field

def isKey (key : String) : Bool :=
  Field.all.any (·.key == key)

/-- The least bound for the length of stems: one character, the mark of a cut and the digest. -/
def leastLength : Nat := Stem.digestLength + 2

inductive Fault where
  | wrongType (field : Field) (found : String)
  | shortLength
  | longReplacement
  | unknownVerbosity
  | emptyEncoding
  | nulInEncoding
  | unknownEncoding (name : String)
  deriving DecidableEq, Repr

def Fault.message : Fault → String
  | .wrongType field found => s!"{field.key} must be of type {field.typeName}, got {found}"
  | .shortLength => s!"{Field.maxLength.key} must be at least {leastLength}"
  | .longReplacement => s!"{Field.replacement.key} must be a single character or empty"
  | .unknownVerbosity =>
    s!"{Field.verbosity.key} must be one of " ++ ", ".intercalate (Verbosity.all.map (·.word))
  | .emptyEncoding => s!"{Field.encoding.key} must not be empty"
  | .nulInEncoding => "embedded null character"
  | .unknownEncoding name => s!"{Field.encoding.key} {Text.quoted name} is not a known codec"

/-- The key that a fault is reported for: the first word of its message. -/
def Fault.key (f : Fault) : String :=
  String.ofList (cutAtFirst ' ' f.message.toList).1

abbrev Values := Ordered String Value

def textOf (given : Values) (field : Field) (default : String) : Except Fault String :=
  match given.find? field.key with
  | none => .ok default
  | some (.text s) => .ok s
  | some v => .error (.wrongType field v.typeName)

def integerOf (given : Values) (field : Field) (default : Int) : Except Fault Int :=
  match given.find? field.key with
  | none => .ok default
  | some (.integer n) => .ok n
  | some v => .error (.wrongType field v.typeName)

def flagOf (given : Values) (field : Field) (default : Bool) : Except Fault Bool :=
  match given.find? field.key with
  | none => .ok default
  | some (.flag b) => .ok b
  | some v => .error (.wrongType field v.typeName)

def checkEncoding (name : String) : Except Fault PUnit :=
  if name.isEmpty then .error .emptyEncoding
  else if name.toList.contains '\x00' then .error .nulInEncoding
  else if (Encoding.named? name).isNone then .error (.unknownEncoding name)
  else .ok ()

/-- The settings that values give; what is not given has its usual value. All types are checked
before anything else. -/
def ofValues (given : Values) : Except Fault Settings := do
  let usual : Settings := {}
  let encoding ← textOf given .encoding usual.encoding
  let replacement ← textOf given .replacement usual.replacement
  let maxLength ← integerOf given .maxLength usual.maxLength
  let lowercase ← flagOf given .lowercase usual.lowercase
  let skipUnresolved ← flagOf given .skipUnresolved usual.skipUnresolved
  let word ← textOf given .verbosity usual.verbosity.word
  if maxLength < leastLength then throw .shortLength
  if replacement.length > 1 then throw .longReplacement
  let some verbosity := Verbosity.ofWord? word | throw .unknownVerbosity
  checkEncoding encoding
  return { encoding, replacement, maxLength, lowercase, skipUnresolved, verbosity }

end Settings

end Apidoc
