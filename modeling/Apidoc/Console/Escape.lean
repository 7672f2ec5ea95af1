/-!
Console markup has tags in square brackets, such as `[bold]` and `[/bold]`. A bracket that opens a
tag is taken literally after a backslash, and a backslash there is written twice.

`opensTag` tells where a tag begins, and `escape` writes a text so that none does.
-/
namespace Apidoc.Console

def isTagStart (c : Char) : Bool :=
  ('a' ≤ c && c ≤ 'z') || c == '#' || c == '/' || c == '@'

/-- Whether the text after a bracket makes it the opening one of a tag: the right first character,
and a closing bracket before any other opening one. -/
def opensTag : List Char → Bool
  | [] => false
  | c :: rest => isTagStart c && (rest.dropWhile fun d => d ≠ '[' && d ≠ ']').head? == some ']'

/-- Escapes the rest of a text after `run` backslashes that are not yet written; inside a tag
nothing is changed. -/
def escapeFrom (inTag : Bool) (run : Nat) : List Char → List Char
  | [] => List.replicate run '\\'
  | c :: rest =>
    if inTag then c :: escapeFrom (c ≠ ']') 0 rest
    else if c = '\\' then escapeFrom false (run + 1) rest
    else if c = '[' && opensTag rest then
      List.replicate (2 * run + 1) '\\' ++ '[' :: escapeFrom true 0 rest
    else List.replicate run '\\' ++ c :: escapeFrom false 0 rest

def endsInBackslash (s : List Char) : Bool :=
  match s.reverse with
  | '\\' :: '\\' :: _ => false
  | '\\' :: _ => true
  | _ => false

/-- A text with its tags made literal; a single backslash at the end is written twice, so that it
does not escape what comes after. -/
def escape (s : String) : String :=
  let escaped := escapeFrom false 0 s.toList
  String.ofList (if endsInBackslash escaped then escaped ++ ['\\'] else escaped)

end Apidoc.Console
