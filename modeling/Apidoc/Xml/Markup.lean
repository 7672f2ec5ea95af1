import Apidoc.Xml.Content
import Apidoc.Xml.Scope

/-!
Markup: content written out as XML text. Namespaces are written with prefixes that are invented
here; an element that is not inside another declares all those that it needs.
-/
namespace Apidoc.Xml

def escapeTextChar : Char → List Char
  | '&' => "&amp;".toList
  | '<' => "&lt;".toList
  | '>' => "&gt;".toList
  | c => [c]

/-- A character of an attribute value as markup; what a reader would change is written by number. -/
def escapeValueChar : Char → List Char
  | '&' => "&amp;".toList
  | '<' => "&lt;".toList
  | '>' => "&gt;".toList
  | '"' => "&quot;".toList
  | '\r' => "&#13;".toList
  | '\n' => "&#10;".toList
  | '\t' => "&#09;".toList
  | c => [c]

def escapeValue (s : List Char) : List Char :=
  s.flatMap escapeValueChar

def customaryPrefixes : List (List Char × List Char) :=
  [(xmlNamespace, "xml".toList),
   ("http://www.w3.org/1999/xhtml".toList, "html".toList),
   ("http://www.w3.org/1999/02/22-rdf-syntax-ns#".toList, "rdf".toList),
   ("http://schemas.xmlsoap.org/wsdl/".toList, "wsdl".toList),
   ("http://www.w3.org/2001/XMLSchema".toList, "xs".toList),
   ("http://www.w3.org/2001/XMLSchema-instance".toList, "xsi".toList),
   ("http://purl.org/dc/elements/1.1/".toList, "dc".toList)]

/-- The prefixes that an element declares: each namespace with its prefix, in the order in which
the namespaces are met. -/
abbrev Prefixes := List (List Char × List Char)

namespace Prefixes

/-- Adds the namespace of a name. One without a customary prefix gets the next numbered one; the
prefix `xml` needs no declaration. -/
def addName (prefixes : Prefixes) (name : Name) : Prefixes :=
  match name.space with
  | none => prefixes
  | some space =>
    if space == xmlNamespace || prefixes.any (·.1 == space) then prefixes
    else
      match customaryPrefixes.lookup space with
      | some label => prefixes ++ [(space, label)]
      | none => prefixes ++ [(space, 'n' :: 's' :: (toString prefixes.length).toList)]

def addTag (prefixes : Prefixes) (tag : Name) (attributes : List Attribute) : Prefixes :=
  attributes.foldl (fun p a => p.addName a.name) (prefixes.addName tag)

def addContent (prefixes : Prefixes) : Content → Prefixes
  | .empty => prefixes
  | .char _ next => prefixes.addContent next
  | .element tag attributes inner next =>
    (((prefixes.addTag tag attributes).addContent inner).addContent next)

def ofElement (tag : Name) (attributes : List Attribute) (inner : Content) : Prefixes :=
  (Prefixes.addTag [] tag attributes).addContent inner

def qualify (prefixes : Prefixes) (name : Name) : List Char :=
  match name.space with
  | none => name.label
  | some space =>
    if space == xmlNamespace then "xml:".toList ++ name.label
    else
      match prefixes.lookup space with
      | some label => label ++ ':' :: name.label
      | none => name.label

def declarations (prefixes : Prefixes) : List (List Char × List Char) :=
  (prefixes.mergeSort fun a b => decide (String.ofList a.2 ≤ String.ofList b.2)).map fun p =>
    ("xmlns:".toList ++ p.2, p.1)

end Prefixes

def attributesMarkup (attributes : List (List Char × List Char)) : List Char :=
  attributes.flatMap fun a => ' ' :: a.1 ++ "=\"".toList ++ escapeValue a.2 ++ ['"']

def tagMarkup (label : List Char) (attributes : List (List Char × List Char)) (isEmpty : Bool)
    (inner : List Char) : List Char :=
  let opening := '<' :: label ++ attributesMarkup attributes
  if isEmpty then opening ++ " />".toList
  else opening ++ '>' :: inner ++ "</".toList ++ label ++ ['>']

def writtenAttributes (prefixes : Prefixes) (attributes : List Attribute) :
    List (List Char × List Char) :=
  attributes.map fun a => (prefixes.qualify a.name, a.value)

namespace Content

def nestedMarkup (prefixes : Prefixes) : Content → List Char
  | .empty => []
  | .char c next => escapeTextChar c ++ next.nestedMarkup prefixes
  | .element tag attributes inner next =>
    tagMarkup (prefixes.qualify tag) (writtenAttributes prefixes attributes) (inner = .empty)
        (inner.nestedMarkup prefixes)
      ++ next.nestedMarkup prefixes

/-- Content as markup, in which each element that is not inside another declares its prefixes. -/
def markup : Content → List Char
  | .empty => []
  | .char c next => escapeTextChar c ++ next.markup
  | .element tag attributes inner next =>
    let prefixes := Prefixes.ofElement tag attributes inner
    tagMarkup (prefixes.qualify tag)
        (prefixes.declarations ++ writtenAttributes prefixes attributes) (inner = .empty)
        (inner.nestedMarkup prefixes)
      ++ next.markup

end Content

end Apidoc.Xml
