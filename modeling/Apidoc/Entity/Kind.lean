/-!
Kinds of entities.
-/
namespace Apidoc

inductive Kind where
  | space
  | type
  | method
  | property
  | field
  | event
  | sample
  deriving DecidableEq, Repr

namespace Kind

def word : Kind → String
  | space => "namespace"
  | type => "type"
  | method => "method"
  | property => "property"
  | field => "field"
  | event => "event"
  | sample => "sample"

def label : Kind → String
  | space => "NamespaceEntity"
  | type => "TypeEntity"
  | method => "MethodEntity"
  | property => "PropertyEntity"
  | field => "FieldEntity"
  | event => "EventEntity"
  | sample => "SampleEntity"

def letters : List (String × Kind) :=
  [("N", space), ("T", type), ("M", method), ("P", property), ("F", field), ("E", event)]

def ofLetter? (letter : String) : Option Kind :=
  letters.lookup letter

def isWord (s : String) : Bool :=
  letters.any (·.2.word == s)

end Kind

end Apidoc
