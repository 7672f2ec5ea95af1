import Apidoc.Log

/-!
What is worth saying while a file is read and a catalog is built.
-/
namespace Apidoc

inductive Notice where
  | nameless (source : String)
  | duplicate (id source : String)
  | read (count : Nat) (source : String)
  | unresolved (id : String)
  | unknownLetter (id : String)
  | undeclared (id : Option String)
  | built (count : Nat) (source : String)
  deriving DecidableEq, Repr

namespace Notice

def level : Notice → Log.Level
  | nameless _ => .warning
  | duplicate _ _ => .warning
  | unknownLetter _ => .warning
  | _ => .debug

def fileLogger : String := "docweave.comments.docfile"

def catalogLogger : String := "docweave.builder"

def logger : Notice → String
  | nameless _ => fileLogger
  | duplicate _ _ => fileLogger
  | read _ _ => fileLogger
  | _ => catalogLogger

def message : Notice → String
  | nameless source => s!"Skipping <member> without a name in {source}"
  | duplicate id source => s!"Duplicate member {id} in {source}, keeping the last one"
  | read count source => s!"Read {count} members from {source}"
  | unresolved id => s!"Skipping unresolved member {id}"
  | unknownLetter id => s!"Skipping member with unknown id prefix: {id}"
  | undeclared id => "No documented declaring type for " ++ id.getD "None"
  | built count source => s!"Built {count} entities from {source}"

def record (n : Notice) : Log.Record :=
  ⟨n.level, n.logger, n.message⟩

end Notice

end Apidoc
