import Apidoc.Value

/-!
What can go wrong with the input: documentation that cannot be read and settings that cannot be
used. A problem has a message and named details.
-/
namespace Apidoc

inductive Problem where
  | general (message : String) (details : List (String × String))
  | parsing (message : String) (details : List (String × String))
  | comment (source reason : String)
  | file (path reason : String)
  | configuration (message : String) (details : List (String × String))
  | setting (key : String) (value : Value) (reason : String)

namespace Problem

def message : Problem → String
  | general message _ => message
  | parsing message _ => message
  | comment source _ => s!"Failed to parse doc comment from {source}"
  | file path _ => s!"Cannot read doc file: {path}"
  | configuration message _ => message
  | setting key value _ => s!"Invalid configuration for {key}: {value.shown}"

def details : Problem → List (String × String)
  | general _ details => details
  | parsing _ details => details
  | comment source reason => [("source", source), ("reason", reason)]
  | file path reason => [("path", path), ("reason", reason)]
  | configuration _ details => details
  | setting key value reason => [("key", key), ("value", value.shown), ("reason", reason)]

def text (p : Problem) : String :=
  if p.details.isEmpty then p.message
  else p.message ++ " (" ++ ", ".intercalate (p.details.map fun (k, v) => s!"{k}={v}") ++ ")"

def isConfiguration : Problem → Bool
  | configuration _ _ => true
  | setting _ _ _ => true
  | _ => false

def unresolved (id : String) : Problem :=
  general s!"Unresolved member reference: {id}" [("id", id)]

end Problem

end Apidoc
