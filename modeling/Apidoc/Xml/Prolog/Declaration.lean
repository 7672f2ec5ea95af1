import Apidoc.Xml.Char

/-!
The XML declaration at the start of a document. Of what it says only `standalone` matters here,
but all of it has to be well-formed.
-/
namespace Apidoc.Xml.Prolog

structure Setting where
  name : List Char
  value : List Char
  atName : List Char
  atValue : List Char

def isValueChar (c : Char) : Bool :=
  c.isAlphanum || c == '.' || c == '-' || c == '_'

/-- Reads the next setting and the text after it; none at the end of the declaration, and the text
from the first unexpected character when there is one. -/
def nextSetting (text : List Char) : Except (List Char) (Option (Setting × List Char)) :=
  match text with
  | [] => .ok none
  | c :: _ =>
    if !isSpace c then .error text
    else
      let atName := text.dropWhile isSpace
      if atName.isEmpty then .ok none
      else
        let plain := fun c : Char => c ≠ '=' && !isSpace c && c.toNat < 0x80
        let name := atName.takeWhile plain
        let afterName := atName.dropWhile plain
        let atEquals := afterName.dropWhile isSpace
        match atEquals with
        | '=' :: rest =>
          if name.isEmpty then .error atEquals
          else
            match rest.dropWhile isSpace with
            | [] => .error []
            | quote :: atValue =>
              if quote ≠ '"' && quote ≠ '\'' then .error (quote :: atValue)
              else
                match atValue.dropWhile isValueChar with
                | [] => .error []
                | c :: rest =>
                  if c == quote then
                    .ok (some (⟨name, atValue.takeWhile isValueChar, atName, atValue⟩, rest))
                  else .error (c :: rest)
        | _ => .error atEquals

def readStandalone (setting : Setting) (rest : List Char) : Except (List Char) Bool :=
  if setting.name ≠ "standalone".toList then .error setting.atName
  else
    let yes := setting.value == "yes".toList
    if !yes && setting.value ≠ "no".toList then .error setting.atValue
    else
      let rest := rest.dropWhile isSpace
      if rest.isEmpty then .ok yes else .error rest

/-- Reads the text of a declaration between `<?xml` and `?>`: whether the document stands alone, or
the text from the first thing that is wrong. -/
def readDeclaration (text : List Char) : Except (List Char) Bool := do
  let some (version, rest) ← nextSetting text | throw text
  if version.name ≠ "version".toList then throw version.atName
  let some (second, rest) ← nextSetting rest | return false
  if second.name ≠ "encoding".toList then readStandalone second rest
  else
    if !(second.value.head?.any Char.isAlpha) then throw second.atValue
    let some (third, rest) ← nextSetting rest | return false
    readStandalone third rest

end Apidoc.Xml.Prolog
