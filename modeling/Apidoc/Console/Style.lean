import Apidoc.Console.Colour
import Apidoc.Text.Lower

/-!
Names of styles. A tag is closed by any name of the style that opened it, so names are compared in
a normal form: attributes in a fixed order, then the colours, then the link.
-/
namespace Apidoc.Console

def attributes : List (String × List String) :=
  [("bold", ["b"]), ("dim", ["d"]), ("italic", ["i"]), ("underline", ["u"]), ("blink", []),
   ("blink2", []), ("reverse", ["r"]), ("conceal", ["c"]), ("strike", ["s"]),
   ("underline2", ["uu"]), ("frame", []), ("encircle", []), ("overline", ["o"])]

def attribute? (word : String) : Option String :=
  (attributes.find? fun a => a.1 == word || a.2.contains word).map (·.1)

structure Style where
  switches : List (String × Bool) := []
  colour : Option String := none
  background : Option String := none
  link : Option String := none

def Style.read (style : Style) : List String → Except StyleFault Style
  | [] => .ok style
  | word :: rest =>
    match Text.lowerString word, rest with
    | "on", colour :: rest => do
      checkColour (Text.lowerString colour)
      Style.read { style with background := some (Text.lowerString colour) } rest
    | "on", [] => .error .meaningless
    | "not", name :: rest =>
      match attribute? name with
      | some a => Style.read { style with switches := (a, false) :: style.switches } rest
      | none => .error .meaningless
    | "not", [] => .error .meaningless
    | "link", target :: rest => Style.read { style with link := some target } rest
    | "link", [] => .error .meaningless
    | name, rest =>
      match attribute? name with
      | some a => Style.read { style with switches := (a, true) :: style.switches } rest
      | none => do
        checkColour name
        Style.read { style with colour := some name } rest

def Style.normalForm (style : Style) : String :=
  let switches := attributes.filterMap fun a =>
    (style.switches.lookup a.1).map fun on => if on then a.1 else "not " ++ a.1
  let words := switches ++ style.colour.toList ++ style.background.toList.map ("on " ++ ·)
    ++ style.link.toList.map ("link " ++ ·)
  if words.isEmpty then "none" else " ".intercalate words

def Style.ofText (text : List Char) : Except StyleFault Style :=
  if String.ofList (Text.stripEnds Text.isBlank text) == "none" then .ok {}
  else Style.read {} ((Text.words text).map String.ofList)

/-- The normal form of the name of a style; a name that means nothing is only put in lower case. -/
def normalName (name : List Char) : Except Text.IntegerFault String :=
  match Style.ofText name with
  | .ok style => .ok style.normalForm
  | .error .meaningless => .ok (String.ofList (Text.lower (Text.stripEnds Text.isBlank name)))
  | .error (.number fault) => .error fault

end Apidoc.Console
