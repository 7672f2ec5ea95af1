import Apidoc.Text.Printable
import Apidoc.Digest.Sha1

/-!
Quoted texts: a text between quotation marks, with escapes for whatever could not be told apart
when it is read.
-/
namespace Apidoc.Text

open Digest (hexDigits)

/-- How a character is written between quotation marks `quote`. Characters that are not printable
are given by their code point, in the shortest of three lengths. -/
def quotedChar (quote c : Char) : List Char :=
  if c == quote || c == '\\' then ['\\', c]
  else if c == '\n' then ['\\', 'n']
  else if c == '\r' then ['\\', 'r']
  else if c == '\t' then ['\\', 't']
  else if isPrintable c then [c]
  else if c.toNat ≤ 0xFF then '\\' :: 'x' :: hexDigits 2 c.toNat
  else if c.toNat ≤ 0xFFFF then '\\' :: 'u' :: hexDigits 4 c.toNat
  else '\\' :: 'U' :: hexDigits 8 c.toNat

/-- The quotation mark for a text: single, unless the text has single ones and no double ones. -/
def quoteFor (s : List Char) : Char :=
  if s.contains '\'' && !s.contains '"' then '"' else '\''

def quoted (s : String) : String :=
  let quote := quoteFor s.toList
  String.ofList (quote :: s.toList.flatMap (quotedChar quote) ++ [quote])

def quoted? : Option String → String
  | some s => quoted s
  | none => "None"

end Apidoc.Text
