import Apidoc.Console.Literal.Phrase

/-!
Written values: numbers, texts, constants, and tuples, sets and tables of such. `check` says whether
a text is one and, if not, what is wrong with it.
-/
namespace Apidoc.Console.Literal

inductive Fault where
  | form (message : String)
  | value (message : String)
  deriving DecidableEq, Repr

def evenLines : List Char → List Char
  | [] => []
  | '\r' :: '\n' :: rest => '\n' :: evenLines rest
  | '\r' :: rest => '\n' :: evenLines rest
  | c :: rest => c :: evenLines rest

def mistake (ts : List Token) : String :=
  match wholePhrase true ts with
  | .error (some message) => message
  | _ => "invalid syntax"

/-- Checks that a text is a written value. A text that falls into tokens is judged by them; the
likely mistake is looked for only when the text is no phrase. -/
def check (text : List Char) : Except Fault PUnit := do
  let text := evenLines (text.dropWhile fun c => c == ' ' || c == '\t')
  let ts ← (tokens text).mapError .form
  match wholePhrase false ts with
  | .ok p =>
    let _ ← p.worth.mapError Fault.value
    return ()
  | .error (some message) => throw (.form message)
  | .error none => throw (.form (mistake ts))

end Apidoc.Console.Literal
