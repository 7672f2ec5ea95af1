import Apidoc.Comment
import Apidoc.Notice
import Apidoc.Ordered

/-!
Files of comments, as compilers write them:

```
<doc>
  <assembly><name>Acme.Widgets</name></assembly>
  <members>
    <member name="T:Acme.Widget"> ... </member>
  </members>
</doc>
```
-/
namespace Apidoc

structure CommentFile where
  assembly : Option String
  comments : Ordered String Comment
  source : String

namespace CommentFile

open Xml (Element Name)

def textSource : String := "<string>"

def atPath (root : Element) (outer inner : String) : List Element :=
  (root.childrenNamed (.plain outer)).flatMap (·.childrenNamed (.plain inner))

/-- The name of the assembly: the text before any markup in the first place for it. -/
def assemblyOf (root : Element) : Option String :=
  (atPath root "assembly" "name").head?.map fun e => String.ofList e.content.leadingText

/-- The id of a member element, which an empty name does not give. -/
def idOf (member : Element) : Option String :=
  (member.attribute? "name").filter (!·.isEmpty)

def collect (source : String) (held : Ordered String Comment) :
    List Element → Ordered String Comment × List Notice
  | [] => (held, [])
  | member :: rest =>
    match idOf member with
    | none =>
      let (comments, notices) := collect source held rest
      (comments, .nameless source :: notices)
    | some id =>
      let (comments, notices) := collect source (held.insert id ⟨member⟩) rest
      (comments, if held.has id then .duplicate id source :: notices else notices)

def ofRoot (source : String) (root : Element) : CommentFile × List Notice :=
  let (comments, notices) := collect source [] (atPath root "members" "member")
  (⟨assemblyOf root, comments, source⟩, notices ++ [.read comments.length source])

def parse (text : String) (source : String) : Except Problem (CommentFile × List Notice) :=
  match Xml.parseDocument text.toList with
  | .error fault => .error (.comment source (fault.message text.toList))
  | .ok root =>
    if root.tag = .plain "doc" then .ok (ofRoot source root)
    else .error (.comment source s!"expected <doc> root element, got <{root.tag.spelled}>")

end CommentFile

end Apidoc
