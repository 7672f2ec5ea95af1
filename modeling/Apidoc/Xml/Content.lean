/-!
XML content after parsing: characters and elements in order. Names are expanded, so a prefix has
become the namespace it stands for; comments and processing instructions are gone.
-/
namespace Apidoc.Xml

structure Name where
  space : Option (List Char)
  label : List Char
  deriving DecidableEq, Repr

def Name.plain (label : String) : Name :=
  ⟨none, label.toList⟩

/-- The spelling of a name: its namespace in braces, then the label. No label has a brace, so
different names are spelled differently. -/
def Name.spelled (name : Name) : String :=
  match name.space with
  | none => String.ofList name.label
  | some space => String.ofList ('\x7b' :: space ++ '\x7d' :: name.label)

structure Attribute where
  name : Name
  value : List Char
  deriving DecidableEq, Repr

inductive Content where
  | empty
  | char (c : Char) (next : Content)
  | element (tag : Name) (attributes : List Attribute) (inner next : Content)
  deriving DecidableEq, Repr

structure Element where
  tag : Name
  attributes : List Attribute
  content : Content
  deriving DecidableEq, Repr

namespace Content

def append : Content → Content → Content
  | empty, d => d
  | char c next, d => char c (next.append d)
  | element tag attributes inner next, d => element tag attributes inner (next.append d)

instance : Append Content := ⟨append⟩

/-- The items of the first content in reverse order, then the second; what stands inside elements
keeps its order. -/
def reverseOnto : Content → Content → Content
  | empty, d => d
  | char c next, d => next.reverseOnto (char c d)
  | element tag attributes inner next, d => next.reverseOnto (element tag attributes inner d)

def reverse (c : Content) : Content :=
  c.reverseOnto empty

def elements : Content → List Element
  | empty => []
  | char _ next => next.elements
  | element tag attributes inner next => ⟨tag, attributes, inner⟩ :: next.elements

def leadingText : Content → List Char
  | char c next => c :: next.leadingText
  | _ => []

end Content

namespace Element

def onto (e : Element) (next : Content) : Content :=
  .element e.tag e.attributes e.content next

def children (e : Element) : List Element :=
  e.content.elements

def childrenNamed (e : Element) (name : Name) : List Element :=
  e.children.filter (·.tag = name)

def attribute? (e : Element) (spelling : String) : Option String :=
  (e.attributes.find? (·.name.spelled == spelling)).map fun a => String.ofList a.value

end Element

end Apidoc.Xml
