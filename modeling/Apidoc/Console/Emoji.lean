import Apidoc.Text.Blank
import Apidoc.Text.Lower

/-!
Pictographs by name: `:heart:` stands for a heart. A name that is not known stays as it is.
-/
namespace Apidoc.Console

/-- Pictographs by their names in lower case. None is longer than a name that asks for it is with
its colons, in whatever case it is written. -/
structure Pictographs where
  find? : List Char → Option (List Char)
  short : ∀ name picture, find? (Text.lower name) = some picture →
    picture.length ≤ name.length + 2

def noPictographs : Pictographs where
  find? _ := none
  short := nofun

def takeVariant (name : List Char) : List Char × List Char :=
  if "-emoji".toList.isSuffixOf name then (name.take (name.length - 6), ['\uFE0F'])
  else if "-text".toList.isSuffixOf name then (name.take (name.length - 5), ['\uFE0E'])
  else (name, [])

section

variable (pictographs : Pictographs)

def pictograph? (name : List Char) : Option (List Char) :=
  let (plain, variant) := takeVariant name
  (pictographs.find? (Text.lower plain)).map (· ++ variant)

def replaceName (name : List Char) : List Char :=
  (pictograph? pictographs name).getD (':' :: name ++ [':'])

/-- Replaces names in the rest of a text, after a colon and `name`, in reverse, if that is where
one is. White space ends a name that has no second colon. -/
def replaceNamesFrom : Option (List Char) → List Char → List Char
  | none, [] => []
  | some name, [] => ':' :: name.reverse
  | none, c :: rest =>
    if c = ':' then replaceNamesFrom (some []) rest else c :: replaceNamesFrom none rest
  | some name, c :: rest =>
    if c = ':' then replaceName pictographs name.reverse ++ replaceNamesFrom none rest
    else if Text.isBlank c then ':' :: name.reverse ++ c :: replaceNamesFrom none rest
    else replaceNamesFrom (some (c :: name)) rest

def replaceNames (s : List Char) : List Char :=
  replaceNamesFrom pictographs none s

end

end Apidoc.Console
