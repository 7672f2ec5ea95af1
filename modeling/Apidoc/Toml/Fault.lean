import Apidoc.Text.Quoted

/-!
What can be wrong with a TOML text, and where. A fault is placed by the number of characters from
it to the end of the text.
-/
namespace Apidoc.Toml

abbrev Key := List String

def shownKey (key : Key) : String :=
  match key with
  | [part] => "(" ++ Text.quoted part ++ ",)"
  | parts => "(" ++ ", ".intercalate (parts.map Text.quoted) ++ ")"

inductive Reason where
  | invalidStatement
  | invalidValue
  | missingEquals
  | trailingText
  | badKeyStart
  | unterminatedString
  | missingQuote (mark : String)
  | illegalChar (c : Char)
  | invalidChar (c : Char)
  | badEscape
  | badHex
  | notScalar
  | invalidDate
  | unclosedArray
  | unclosedTable
  | duplicateKey (key : String)
  | overwritten
  | declaredTwice (key : Key)
  | immutable (key : Key)
  | redefined (key : Key)
  | missingBracket
  | missingBrackets
  deriving DecidableEq, Repr

def Reason.message : Reason → String
  | .invalidStatement => "Invalid statement"
  | .invalidValue => "Invalid value"
  | .missingEquals => "Expected '=' after a key in a key/value pair"
  | .trailingText => "Expected newline or end of document after a statement"
  | .badKeyStart => "Invalid initial character for a key part"
  | .unterminatedString => "Unterminated string"
  | .missingQuote mark => s!"Expected {Text.quoted mark}"
  | .illegalChar c => s!"Illegal character {Text.quoted c.toString}"
  | .invalidChar c => s!"Found invalid character {Text.quoted c.toString}"
  | .badEscape => "Unescaped '\\' in a string"
  | .badHex => "Invalid hex value"
  | .notScalar => "Escaped character is not a Unicode scalar value"
  | .invalidDate => "Invalid date or datetime"
  | .unclosedArray => "Unclosed array"
  | .unclosedTable => "Unclosed inline table"
  | .duplicateKey key => s!"Duplicate inline table key {Text.quoted key}"
  | .overwritten => "Cannot overwrite a value"
  | .declaredTwice key => s!"Cannot declare {shownKey key} twice"
  | .immutable key => s!"Cannot mutate immutable namespace {shownKey key}"
  | .redefined key => s!"Cannot redefine namespace {shownKey key}"
  | .missingBracket => "Expected ']' at the end of a table declaration"
  | .missingBrackets => "Expected ']]' at the end of an array declaration"

inductive Fault where
  | invalid (reason : Reason) (left : Nat)
  | longInteger (digits : Nat)
  deriving DecidableEq, Repr

/-- The place in a text after some of it; lines and columns count from one. -/
def placeAfter (before : List Char) : String :=
  let line := before.count '\n' + 1
  let column := (before.reverse.takeWhile (· ≠ '\n')).length + 1
  s!"line {line}, column {column}"

def Reason.messageAt (reason : Reason) (left : Nat) (text : List Char) : String :=
  let place := if left = 0 then "end of document" else placeAfter (text.take (text.length - left))
  s!"{reason.message} (at {place})"

end Apidoc.Toml
