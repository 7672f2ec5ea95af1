/-!
What the document type declaration of a document says about the rest of it.
-/
namespace Apidoc.Xml

inductive Entity where
  | internal (text : List Char)
  | external
  | unparsed
  deriving DecidableEq, Repr

/-- A declared attribute of the elements with a given tag. In values that are not plain text the
spaces are collapsed. -/
structure AttributeRule where
  tag : List Char
  key : List Char
  plain : Bool
  default? : Option (List Char)
  deriving DecidableEq, Repr

/-- The declarations of a document. Of several for one thing the first counts. They are incomplete
if there may be some that have not been read. -/
structure Doctype where
  entities : List (List Char × Entity)
  rules : List AttributeRule
  incomplete : Bool
  deriving DecidableEq, Repr

namespace Doctype

def blank : Doctype := ⟨[], [], false⟩

def entity? (doctype : Doctype) (name : List Char) : Option Entity :=
  (doctype.entities.find? (·.1 == name)).map (·.2)

def keepsSpaces (doctype : Doctype) (tag key : List Char) : Bool :=
  match doctype.rules.find? fun r => r.tag == tag && r.key == key with
  | some rule => rule.plain
  | none => true

end Doctype

end Apidoc.Xml
