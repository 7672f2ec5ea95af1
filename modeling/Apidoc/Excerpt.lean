import Apidoc.Text.Blank
import Apidoc.Text.Slice

/-!
Excerpts: a text on one line, cut to a width, for the cells of a table.
-/
namespace Apidoc

def Excerpt.defaultWidth : Int := 80

/-- The words of a text with one space between each two, when that is at most `width` characters;
otherwise its first `width - 1` characters and an ellipsis. -/
def excerpt (text : String) (width : Int) : String :=
  if text.isEmpty then ""
  else
    let line := [' '].intercalate (Text.words text.toList)
    if (line.length : Int) > width then
      String.ofList (Text.takeUpTo (width - 1) line ++ ['…'])
    else String.ofList line

end Apidoc
