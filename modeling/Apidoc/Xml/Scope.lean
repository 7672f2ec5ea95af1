import Apidoc.Xml.Content
import Apidoc.Xml.Fault

/-!
Namespace scopes: which prefix stands for which namespace at a point of a document.
-/
namespace Apidoc.Xml

def xmlNamespace : List Char := "http://www.w3.org/XML/1998/namespace".toList

def xmlnsNamespace : List Char := "http://www.w3.org/2000/xmlns/".toList

def xmlnsPrefix : List Char := "xmlns".toList

/-- The prefixes in force, innermost first. The empty prefix has the default namespace, and the
empty namespace is none. -/
abbrev Scope := List (List Char × List Char)

namespace Scope

def outermost : Scope := [("xml".toList, xmlNamespace)]

def find? (scope : Scope) (label : List Char) : Option (List Char) :=
  match scope.lookup label with
  | some [] => none
  | found => found

def bind (scope : Scope) (label space : List Char) : Except Reason Scope :=
  if space.isEmpty && !label.isEmpty then .error .undeclaredPrefix
  else if label == xmlnsPrefix then .error .reservedXmlnsPrefix
  else if space.contains '\x7d' then .error .syntaxError
  else if label == "xml".toList then
    if space == xmlNamespace then .ok ((label, space) :: scope) else .error .reservedXmlPrefix
  else if space == xmlNamespace || space == xmlnsNamespace then .error .reservedNamespace
  else .ok ((label, space) :: scope)

end Scope

def splitLabel (label : List Char) : Option (List Char) × List Char :=
  match label.dropWhile (· ≠ ':') with
  | [] => (none, label)
  | _ :: rest => (some (label.takeWhile (· ≠ ':')), rest)

def elementName (scope : Scope) (label : List Char) : Except Reason Name :=
  match splitLabel label with
  | (none, rest) => .ok ⟨scope.find? [], rest⟩
  | (some front, rest) =>
    match scope.find? front with
    | none => .error .unboundPrefix
    | some space => .ok ⟨some space, rest⟩

/-- The expanded name of an attribute; the default namespace is not for attributes. -/
def attributeName (scope : Scope) (label : List Char) : Except Reason Name :=
  match splitLabel label with
  | (none, rest) => .ok ⟨none, rest⟩
  | (some _, _) => elementName scope label

/-- The expanded attributes, in order; two with the same expanded name are refused. -/
def expandAttributes (scope : Scope) (seen : List Name) :
    List (List Char × List Char) → Except Reason (List Attribute)
  | [] => .ok []
  | (label, value) :: rest => do
    let name ← attributeName scope label
    if seen.contains name then throw .duplicateAttribute
    return ⟨name, value⟩ :: (← expandAttributes scope (name :: seen) rest)

end Apidoc.Xml
