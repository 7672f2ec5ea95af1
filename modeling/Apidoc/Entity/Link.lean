import Apidoc.Text.Quoted

/-!
Links from an entity to what is worth reading with it.
-/
namespace Apidoc

structure SeeAlso where
  cref : Option String := none
  href : Option String := none
  label : Option String := none
  deriving DecidableEq, Repr

namespace SeeAlso

def target (link : SeeAlso) : Option String :=
  match link.cref with
  | none => link.href
  | some cref => if cref.isEmpty then link.href else some cref

def shown (link : SeeAlso) : String :=
  s!"SeeAlsoLink(cref={Text.quoted? link.cref}, href={Text.quoted? link.href}, "
    ++ s!"label={Text.quoted? link.label})"

end SeeAlso

structure Topic where
  id : Option String
  name : Option String
  fileName : Option String := none
  deriving DecidableEq, Repr

def Topic.shown (topic : Topic) : String :=
  s!"TopicLink(id={Text.quoted? topic.id}, name={Text.quoted? topic.name}, "
    ++ s!"file_name={Text.quoted? topic.fileName})"

end Apidoc
