import Apidoc.Console.Escape
import Apidoc.Entity

/-!
Reports: the documentation of one entity as console markup. Every text that comes from outside is
escaped, so the only tags are those that are written here.
-/
namespace Apidoc.Report

open Console (escape)

def styled (style text : String) : String :=
  s!"[{style}]{text}[/{style}]"

def headed (title : String) (body : List String) : List String :=
  "" :: styled "bold" title :: body

def ifAny (title : String) (body : List String) : List String :=
  if body.isEmpty then [] else headed title body

def textSection (title : String) (text : Option String) : List String :=
  ifAny title ((text.filter (!·.isEmpty)).toList.map escape)

def parameterLine (note : ParameterNote) : String :=
  "  " ++ styled "cyan" (escape note.name) ++ "  " ++ escape note.description

/-- A line about an exception; a question mark stands for a type that is not given. -/
def exceptionLine (note : ExceptionNote) : String :=
  let cref := (note.cref.filter (!·.isEmpty)).getD "?"
  "  " ++ styled "red" (escape cref) ++ "  " ++ escape note.description

def linkLine (link : SeeAlso) : String :=
  let target := escape (link.target.getD "")
  match link.label.filter (!·.isEmpty) with
  | some label => s!"  {escape label} ({target})"
  | none => s!"  {target}"

def head (e : Entity) : List String :=
  [styled "dim" e.kind.word ++ "  " ++ escape (e.fullName.getD ""),
   styled "dim" "file id:" ++ " " ++ escape (e.stem.getD "")]

def lines (e : Entity) : List String :=
  head e ++ textSection "Summary" e.description ++ textSection "Remarks" e.remarks
    ++ ifAny "Type parameters" (e.typeParameters.map parameterLine)
    ++ ifAny "Parameters" (e.parameters.map parameterLine)
    ++ textSection "Returns" e.returns ++ textSection "Value" e.value
    ++ ifAny "Exceptions" (e.exceptions.map exceptionLine)
    ++ ifAny "See also" (e.seeAlso.map linkLine)

def render (e : Entity) : String :=
  "\n".intercalate (lines e)

end Apidoc.Report
