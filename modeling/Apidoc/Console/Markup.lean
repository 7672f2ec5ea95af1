import Apidoc.Console.Emoji
import Apidoc.Console.Escape
import Apidoc.Console.Literal
import Apidoc.Console.Style
import Apidoc.Text.Word

/-!
Reading console markup: `tokens` tells tags and text apart, and `plain` is the text that is shown,
provided that each closing tag has something to close and that what the tags say can be read.
-/
namespace Apidoc.Console

inductive Token where
  | text (s : List Char)
  | tag (start : Nat) (body : List Char)
  deriving DecidableEq, Repr

inductive Reading where
  | text (s : List Char) (run : Nat)
  | tag (start : Nat) (body : List Char)
  | literal (s : List Char)

def textToken (s : List Char) : List Token :=
  if s.isEmpty then [] else [.text s]

def tokensFrom (position : Nat) : Reading → List Char → List Token
  | .text s run, [] => textToken (s.reverse ++ List.replicate run '\\')
  | .tag _ body, [] => textToken ('[' :: body.reverse)
  | .literal s, [] => textToken s.reverse
  | .text s run, c :: rest =>
    if c = '\\' then tokensFrom (position + 1) (.text s (run + 1)) rest
    else if c = '[' && opensTag rest then
      textToken s.reverse ++ textToken (List.replicate (run / 2) '\\')
        ++ tokensFrom (position + 1) (if run % 2 = 0 then .tag position [] else .literal ['[']) rest
    else tokensFrom (position + 1) (.text (c :: List.replicate run '\\' ++ s) 0) rest
  | .tag start body, c :: rest =>
    if c = ']' then .tag start body.reverse :: tokensFrom (position + 1) (.text [] 0) rest
    else tokensFrom (position + 1) (.tag start (c :: body)) rest
  | .literal s, c :: rest =>
    if c = ']' then .text (c :: s).reverse :: tokensFrom (position + 1) (.text [] 0) rest
    else tokensFrom (position + 1) (.literal (c :: s)) rest

def tokens (markup : List Char) : List Token :=
  tokensFrom 0 (.text [] 0) markup

def tags (markup : List Char) : List (List Char) :=
  (tokens markup).filterMap fun
    | .text _ => none
    | .tag _ body => some body

inductive MarkupFault where
  | unmatched (body : List Char) (position : Nat)
  | nothingOpen (position : Nat)
  | action (parameters value : List Char) (fault : Literal.Fault)
  | number (fault : Text.IntegerFault)

def MarkupFault.message : MarkupFault → String
  | .unmatched body position =>
    s!"closing tag '[{String.ofList body}]' at position {position} doesn't match any open tag"
  | .nothingOpen position => s!"closing tag '[/]' at position {position} has nothing to close"
  | .action parameters value (.form message) =>
    s!"error parsing {quoted value} in {quoted parameters}; {message}"
  | .action parameters _ (.value message) => s!"error parsing {quoted parameters}; {message}"
  | .number fault => fault.message
where
  quoted (s : List Char) : String := Text.quoted (String.ofList s)

def dropBracketEscapes : List Char → List Char
  | [] => []
  | '\\' :: '[' :: rest => '[' :: dropBracketEscapes rest
  | c :: rest => c :: dropBracketEscapes rest

def isControl (c : Char) : Bool :=
  [7, 8, 11, 12, 13].contains c.toNat

def shownText (pictographs : Pictographs) (s : List Char) : List Char :=
  (replaceNames pictographs (dropBracketEscapes s)).filter (!isControl ·)

structure OpenTag where
  name : String
  parameters : Option (List Char)

def splitTag (body : List Char) : List Char × Option (List Char) :=
  match body.dropWhile (· ≠ '=') with
  | [] => (body, none)
  | _ :: parameters => (body.takeWhile (· ≠ '='), some parameters)

def tagName (name : List Char) : Except MarkupFault String :=
  (normalName name).mapError .number

/-- What an action is given: the part in round brackets after the name of one, nothing after a mere
name, and all of any other text. -/
def actionValue (parameters : List Char) : List Char :=
  let rest := parameters.dropWhile fun c => Text.isWordPart c || c == '.'
  match rest with
  | [] => ['(', ')']
  | '(' :: more =>
    if more.getLast? == some ')' && !more.contains '\n' then rest else parameters
  | _ => parameters

def OpenTag.isAction (tag : OpenTag) : Bool :=
  tag.name.toList.head? == some '@'

def OpenTag.checkAction (tag : OpenTag) : Except MarkupFault PUnit :=
  match tag.isAction, tag.parameters with
  | true, some parameters =>
    let value := actionValue (Text.stripEnds Text.isBlank parameters)
    if parameters.isEmpty then .ok () else (Literal.check value).mapError (.action parameters value)
  | _, _ => .ok ()

/-- Checks the style of a tag when it is shown; it may mean nothing, but its numbers must be
numbers. -/
def OpenTag.checkStyle (tag : OpenTag) : Except MarkupFault PUnit :=
  match tag.parameters with
  | none => .ok ()
  | some parameters =>
    match Style.ofText (tag.name.toList ++ ' ' :: parameters) with
    | .error (.number fault) => .error (.number fault)
    | _ => .ok ()

def takeNamed (name : String) : List OpenTag → Option (OpenTag × List OpenTag)
  | [] => none
  | tag :: rest =>
    if tag.name == name then some (tag, rest)
    else (takeNamed name rest).map fun (found, others) => (found, tag :: others)

structure Tags where
  opened : List OpenTag := []
  closed : List OpenTag := []

def Tags.close (tags : Tags) (tag : OpenTag) (rest : List OpenTag) : Except MarkupFault Tags := do
  tag.checkAction
  return ⟨rest, tag :: tags.closed⟩

def Tags.take (tags : Tags) (start : Nat) (body : List Char) : Except MarkupFault Tags :=
  match splitTag body with
  | ('/' :: name, _) =>
    if (Text.stripEnds Text.isBlank name).isEmpty then
      match tags.opened with
      | [] => .error (.nothingOpen start)
      | tag :: rest => tags.close tag rest
    else do
      let name ← tagName name
      match takeNamed name tags.opened with
      | none => throw (.unmatched body start)
      | some (tag, rest) => tags.close tag rest
  | (name, parameters) => do
    return { tags with opened := ⟨← tagName name, parameters⟩ :: tags.opened }

def plainFrom (pictographs : Pictographs) (tags : Tags) :
    List Token → Except MarkupFault (List Char)
  | [] => do
    (tags.closed.reverse.filter (!·.isAction)).forM OpenTag.checkStyle
    tags.opened.forM OpenTag.checkStyle
    return []
  | .text s :: rest => (plainFrom pictographs tags rest).map (shownText pictographs s ++ ·)
  | .tag start body :: rest => do plainFrom pictographs (← tags.take start body) rest

def plain (pictographs : Pictographs) (markup : String) : Except MarkupFault (List Char) :=
  plainFrom pictographs {} (tokens markup.toList)

end Apidoc.Console
