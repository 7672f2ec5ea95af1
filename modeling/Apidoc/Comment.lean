import Apidoc.Problem
import Apidoc.Text.Blank
import Apidoc.Xml.Document
import Apidoc.Xml.Markup

/-!
Documentation comments: the XML element that documents one member. Its passages are its child
elements, looked up by tag; what stands deeper is part of their markup.
-/
namespace Apidoc

abbrev Passage := Xml.Element

namespace Passage

def markup (p : Passage) : String :=
  String.ofList p.content.markup

def body (p : Passage) : String :=
  Text.trim p.markup

def shown (p : Passage) : String :=
  s!"CommentNode(<{p.tag.spelled}>)"

end Passage

structure Comment where
  element : Xml.Element
  deriving DecidableEq, Repr

namespace Comment

def wrap (fragment : List Char) : List Char :=
  "<member>".toList ++ fragment ++ "</member>".toList

def fragmentSource : String := "<fragment>"

def ofFragment (fragment : String) (source : String) : Except Problem Comment :=
  let text := wrap fragment.toList
  match Xml.parseDocument text with
  | .ok element => .ok ⟨element⟩
  | .error fault => .error (.comment source (fault.message text))

def memberId? (c : Comment) : Option String :=
  c.element.attribute? "name"

def allPassages (c : Comment) : List Passage :=
  c.element.children

def passages (c : Comment) (tag : String) : List Passage :=
  c.allPassages.filter (·.tag.spelled == tag)

def passage? (c : Comment) (tag : String) : Option Passage :=
  c.allPassages.find? (·.tag.spelled == tag)

def shown (c : Comment) : String :=
  s!"CommentTree(member_id={Text.quoted? c.memberId?})"

end Comment

end Apidoc
